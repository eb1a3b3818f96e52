import EnumBridge.Bridge
import EnumBridge.Proofs.JsonPath

/-!
# Sites of enum values

An `EnumSite` says that a value of an enum stands somewhere inside a larger value.  What a
walk over a value has to do is then a list of sites: `Bridge.convertSites` converts the
value at each of them, in order, and puts the result in its place.

A walk is described by the sites it must meet, as a predicate, and by the order in which it
must meet them, as a relation between their paths.  `Bridge.Converts` says that a result is
that of converting exactly those sites in that order.  The rules below build such a
statement for a value from statements for the values inside it: one enum value
(`converts_single`), nothing to convert (`converts_none`), the items of an array
(`converts_items`), the values under a type reference (`converts_descend`), and the values
under some names of an object, one name after the other (`ConvertsSlots.cons`).
-/

set_option autoImplicit false

namespace EnumBridge

namespace Schema

/-- The schema has an enum under that name. -/
def IsEnum (schema : Schema) (name : String) : Prop :=
  ∃ type, schema.find? name = some type ∧ type.kind = .enum

/-- The schema has an enum under a name, and the enum has a name of its own, by which its values
are converted.  In a schema that is built the two names are the same. -/
def HasEnum (schema : Schema) (typeName enumName : String) : Prop :=
  ∃ type, schema.find? typeName = some type ∧ type.kind = .enum ∧ type.name = enumName

variable {schema : Schema} {typeName enumName : String}

/-- An enum under a name has some name of its own. -/
theorem exists_hasEnum_iff : (∃ enumName, schema.HasEnum typeName enumName) ↔
    schema.IsEnum typeName := by
  constructor
  · rintro ⟨-, type, hfind, hkind, -⟩
    exact ⟨type, hfind, hkind⟩
  · rintro ⟨type, hfind, hkind⟩
    exact ⟨type.name, type, hfind, hkind, rfl⟩

/-- Under a name there is one enum at most. -/
theorem HasEnum.unique (h : schema.HasEnum typeName enumName) {other : String}
    (hother : schema.HasEnum typeName other) : other = enumName := by
  obtain ⟨type, hfind, -, rfl⟩ := h
  obtain ⟨found, hfound, -, rfl⟩ := hother
  rw [hfind, Option.some.injEq] at hfound
  rw [hfound]

/-- What stands under the name of an enum is an enum. -/
theorem HasEnum.kind_eq (h : schema.HasEnum typeName enumName) {type : TypeDef}
    (hfind : schema.find? typeName = some type) : type.kind = .enum := by
  obtain ⟨found, hfound, hkind, -⟩ := h
  rw [hfind, Option.some.injEq] at hfound
  rw [hfound, hkind]

end Schema

/-- A value of an enum inside a larger value: the way to it, the enum, and the value. -/
structure EnumSite where
  path : Path
  enumName : String
  value : Json

namespace EnumSite

/-- A site as seen from one step further out. -/
def under (step : Step) (site : EnumSite) : EnumSite := { site with path := step :: site.path }

/-- The site of a value at a named type below which nothing is looked for: the value itself, if
the type is an enum. -/
inductive LeafSite (schema : Schema) (typeName : String) (value : Json) : EnumSite → Prop
  | mk {enumName : String} (henum : schema.HasEnum typeName enumName)
      (hvalue : value.isNull = false) : LeafSite schema typeName value ⟨[], enumName, value⟩

/-- An enum leaves room for one such site. -/
theorem leafSite_iff {schema : Schema} {typeName enumName : String} {value : Json}
    (henum : schema.HasEnum typeName enumName) (hvalue : value.isNull = false)
    (site : EnumSite) :
    LeafSite schema typeName value site ↔ site = ⟨[], enumName, value⟩ := by
  constructor
  · rintro ⟨hother, -⟩
    rw [henum.unique hother]
  · rintro rfl
    exact .mk henum hvalue

/-- Where there is no enum, or null, there is no such site. -/
theorem not_leafSite {schema : Schema} {typeName : String} {value : Json}
    (h : ¬ (schema.IsEnum typeName ∧ value.isNull = false)) (site : EnumSite) :
    ¬ LeafSite schema typeName value site := by
  rintro ⟨henum, hvalue⟩
  exact h ⟨Schema.exists_hasEnum_iff.mp ⟨_, henum⟩, hvalue⟩

/-- The sites on a list are exactly those wanted, and their paths stand in the given order. -/
structure Enumerates (isSite : EnumSite → Prop) (before : Path → Path → Prop)
    (sites : List EnumSite) : Prop where
  mem_iff : ∀ site, site ∈ sites ↔ isSite site
  ordered : sites.Pairwise fun first second => before first.path second.path

namespace Enumerates

variable {isSite others : EnumSite → Prop} {before wider : Path → Path → Prop}
  {sites more : List EnumSite}

/-- Where no site is wanted, the empty list has them all. -/
theorem nil (h : ∀ site, ¬ isSite site) : Enumerates isSite before [] :=
  ⟨fun site => by simp [h site], List.Pairwise.nil⟩

/-- Where one site is wanted, the list of that site has them all. -/
theorem single {site : EnumSite} (h : ∀ other, isSite other ↔ other = site) :
    Enumerates isSite before [site] :=
  ⟨fun other => by rw [h other, List.mem_singleton], List.pairwise_singleton _ _⟩

/-- The list serves for any other description of the same sites, and for any order that allows as
much. -/
theorem congr (h : Enumerates isSite before sites) (hsite : ∀ site, isSite site ↔ others site)
    (hbefore : ∀ p q, before p q → wider p q) : Enumerates others wider sites :=
  ⟨fun site => (h.mem_iff site).trans (hsite site), h.ordered.imp (hbefore _ _)⟩

/-- The sites of a value inside another are sites of the outer value, one step further in. -/
theorem under (h : Enumerates isSite before sites) (step : Step)
    (hstep : ∀ p q, before p q → wider (step :: p) (step :: q)) :
    Enumerates (fun site => ∃ inner, isSite inner ∧ site = inner.under step) wider
      (sites.map (EnumSite.under step)) := by
  refine ⟨fun site => ?_, ?_⟩
  · simp only [List.mem_map, h.mem_iff, eq_comm]
  · rw [List.pairwise_map]
    exact h.ordered.imp (hstep _ _)

/-- The sites of two lists behind one another are those of both, if the first stand in front of the
second. -/
theorem append (h : Enumerates isSite before sites) (hmore : Enumerates others before more)
    (hbetween : ∀ first second, isSite first → others second → before first.path second.path) :
    Enumerates (fun site => isSite site ∨ others site) before (sites ++ more) := by
  refine ⟨fun site => by rw [List.mem_append, h.mem_iff, hmore.mem_iff], ?_⟩
  rw [List.pairwise_append]
  refine ⟨h.ordered, hmore.ordered, fun first hfirst second hsecond => ?_⟩
  exact hbetween first second ((h.mem_iff first).mp hfirst) ((hmore.mem_iff second).mp hsecond)

/-- Of an order that does not go both ways there is one list of sites only. -/
theorem eq_iff (h : Enumerates isSite before sites)
    (hasymm : ∀ p q, before p q → ¬ before q p) (more : List EnumSite) :
    Enumerates isSite before more ↔ more = sites := by
  refine ⟨fun hmore => ?_, fun heq => heq ▸ h⟩
  have hnodup {list : List EnumSite}
      (hlist : list.Pairwise fun first second => before first.path second.path) : list.Nodup := by
    refine hlist.imp fun hlt heq => ?_
    subst heq
    exact hasymm _ _ hlt hlt
  have hperm : more.Perm sites := by
    refine (List.perm_ext_iff_of_nodup (hnodup hmore.ordered) (hnodup h.ordered)).mpr ?_
    intro site
    rw [hmore.mem_iff, h.mem_iff]
  exact hperm.eq_of_pairwise (fun first second _ _ hlt hgt => absurd hgt (hasymm _ _ hlt))
    hmore.ordered h.ordered

end Enumerates

end EnumSite

/-- In a list without duplicates what stands in front of another does not stand behind it. -/
theorem not_sublist_of_sublist {keys : List String} (hnodup : keys.Nodup) {a b : String}
    (h : [a, b].Sublist keys) : ¬ [b, a].Sublist keys := by
  induction keys with
  | nil => simp at h
  | cons key rest ih =>
    rw [List.nodup_cons] at hnodup
    intro h'
    cases h with
    | cons _ h =>
      cases h' with
      | cons _ h' => exact ih hnodup.2 h h'
      | cons_cons _ h' => exact hnodup.1 (h.subset (by simp))
    | cons_cons _ h =>
      have hmem : b ∈ rest := List.singleton_sublist.mp h
      cases h' with
      | cons _ h' => exact hnodup.1 (h'.subset (by simp))
      | cons_cons _ h' => exact hnodup.1 hmem

/-- Paths into an object in the order of some names, and below one name in an order that may
depend on the name. -/
inductive NameOrder (names : List String) (below : String → Path → Path → Prop) :
    Path → Path → Prop
  | names {first second : String} {p q : Path} (h : [first, second].Sublist names) :
      NameOrder names below (.member first :: p) (.member second :: q)
  | below {name : String} {p q : Path} (h : below name p q) :
      NameOrder names below (.member name :: p) (.member name :: q)

/-- The order of different names does not go both ways, if those below them do not. -/
theorem NameOrder.asymm {names : List String} {below : String → Path → Path → Prop}
    (hnames : names.Nodup) (hbelow : ∀ name p q, below name p q → ¬ below name q p) {p q : Path}
    (h : NameOrder names below p q) : ¬ NameOrder names below q p := by
  intro h'
  cases h with
  | names h =>
    cases h' with
    | names h' => exact not_sublist_of_sublist hnames h h'
    | below _ => exact not_sublist_of_sublist hnames h h
  | below h =>
    cases h' with
    | names h' => exact not_sublist_of_sublist hnames h' h'
    | below h' => exact hbelow _ _ _ h h'

/-- What becomes of an object when the value under one name is changed. -/
theorem Members.outcome_modifyM {ε : Type} (name : String) (f : Json → Attempt ε Json)
    (members : Members) :
    (Members.modifyM name f members).outcome =
      match members.lookup name with
      | some held => (f held).outcome.map fun new => Members.replace name new members
      | none => .ok members := by
  induction members with
  | nil => rfl
  | cons member rest ih =>
    obtain ⟨key, held⟩ := member
    by_cases hkey : key = name
    · subst hkey
      simp only [Members.modifyM, Members.replace, if_pos, List.lookup_cons_self,
        Attempt.outcome_bind]
      cases (f held).outcome <;> rfl
    · rw [Table.lookup_cons_of_ne (Ne.symm hkey), Members.modifyM, if_neg hkey,
        Attempt.outcome_bind, ih]
      cases hlookup : rest.lookup name with
      | none => rfl
      | some inner =>
        simp only [Members.replace, if_neg hkey]
        cases (f inner).outcome <;> rfl

/-- When the value under one name is changed, the values under all others stay as they were. -/
theorem Members.lookup_of_modifyM {ε : Type} {name key : String} {f : Json → Attempt ε Json}
    {members result : Members} {held : Json}
    (h : (Members.modifyM name f members).outcome = .ok result)
    (hheld : members.lookup key = some held) :
    ∃ new, result.lookup key = some new ∧
      if key = name then (f held).outcome = .ok new else new = held := by
  rw [Members.outcome_modifyM] at h
  cases hname : members.lookup name with
  | none =>
    have hne : key ≠ name := fun heq => by simp [heq, hname] at hheld
    rw [hname] at h
    cases h
    exact ⟨held, hheld, by rw [if_neg hne]⟩
  | some other =>
    simp only [hname] at h
    cases hother : (f other).outcome with
    | error e => simp [hother, Except.map] at h
    | ok new =>
      simp only [hother, Except.map, Except.ok.injEq] at h
      rw [← h]
      by_cases hkey : key = name
      · subst hkey
        rw [hname, Option.some.injEq] at hheld
        refine ⟨new, Members.lookup_replace_self hname new, ?_⟩
        rw [if_pos rfl, ← hheld, hother]
      · exact ⟨held, by rw [Members.lookup_replace_of_ne hkey, hheld], by rw [if_neg hkey]⟩

namespace Bridge

open EnumSite

/-- A value with the enum value at each of some sites converted, one site after the other;
or the error of the first site whose value cannot be converted. -/
def convertSites (bridge : Bridge) (direction : Direction) (sites : List EnumSite)
    (value : Json) : Except BridgeError Json :=
  sites.foldlM
    (fun value site =>
      (bridge.convert site.enumName direction site.value).outcome.map fun new =>
        Json.put new site.path value)
    value

/-- A result is that of converting the enum values at exactly the sites wanted, in order. -/
def Converts (bridge : Bridge) (direction : Direction) (isSite : EnumSite → Prop)
    (before : Path → Path → Prop) (value : Json) (result : Except BridgeError Json) : Prop :=
  ∃ sites, Enumerates isSite before sites ∧ result = bridge.convertSites direction sites value

variable {bridge : Bridge} {direction : Direction}

/-- Without sites a value stays as it is. -/
@[simp] theorem convertSites_nil (value : Json) :
    bridge.convertSites direction [] value = .ok value := rfl

/-- The first site is converted, its result put in place, and the rest is done with that. -/
theorem convertSites_cons (site : EnumSite) (rest : List EnumSite) (value : Json) :
    bridge.convertSites direction (site :: rest) value =
      (bridge.convert site.enumName direction site.value).outcome.bind fun new =>
        bridge.convertSites direction rest (Json.put new site.path value) := by
  unfold convertSites
  rw [List.foldlM_cons]
  cases (bridge.convert site.enumName direction site.value).outcome <;> rfl

/-- The sites of two lists behind one another are converted list by list. -/
theorem convertSites_append (sites more : List EnumSite) (value : Json) :
    bridge.convertSites direction (sites ++ more) value =
      (bridge.convertSites direction sites value).bind
        (bridge.convertSites direction more) := by
  unfold convertSites
  rw [List.foldlM_append]
  rfl

/-- To convert sites below a step is to convert them in the value that the step leads to. -/
theorem convertSites_under {step : Step} {value inner : Json}
    (h : value.below? step = some inner) (sites : List EnumSite) :
    bridge.convertSites direction (sites.map (EnumSite.under step)) value =
      (bridge.convertSites direction sites inner).map (value.replace step) := by
  induction sites generalizing value inner with
  | nil =>
    show Except.ok value = Except.ok (value.replace step inner)
    rw [Json.replace_of_below? h]
  | cons site rest ih =>
    rw [List.map_cons, convertSites_cons, convertSites_cons]
    simp only [EnumSite.under]
    cases (bridge.convert site.enumName direction site.value).outcome with
    | error e => rfl
    | ok new =>
      simp only [Except.bind]
      rw [Json.put_cons h, ih (Json.below?_replace h _)]
      have hstep : (value.replace step (Json.put new site.path inner)).replace step =
          value.replace step := funext fun second => Json.replace_replace _ _ _ _
      rw [hstep]

/-- The result is the same for any other description of the same sites, and for any order that
allows as much. -/
theorem Converts.congr {isSite others : EnumSite → Prop} {before wider : Path → Path → Prop}
    {value : Json} {result : Except BridgeError Json}
    (h : bridge.Converts direction isSite before value result)
    (hsite : ∀ site, isSite site ↔ others site) (hbefore : ∀ p q, before p q → wider p q) :
    bridge.Converts direction others wider value result := by
  obtain ⟨sites, henum, hresult⟩ := h
  exact ⟨sites, henum.congr hsite hbefore, hresult⟩

/-- A value without sites stays as it is. -/
theorem converts_none {isSite : EnumSite → Prop} (before : Path → Path → Prop)
    (h : ∀ site, ¬ isSite site) (value : Json) :
    bridge.Converts direction isSite before value (.ok value) :=
  ⟨[], Enumerates.nil h, rfl⟩

/-- A value that is itself the only site is converted as a whole. -/
theorem converts_single {isSite : EnumSite → Prop} (before : Path → Path → Prop)
    {enumName : String} {value : Json} (h : ∀ site, isSite site ↔ site = ⟨[], enumName, value⟩) :
    bridge.Converts direction isSite before value
      (bridge.convert enumName direction value).outcome := by
  refine ⟨[⟨[], enumName, value⟩], Enumerates.single h, ?_⟩
  rw [convertSites_cons]
  cases (bridge.convert enumName direction value).outcome <;> rfl

/-! ## Arrays and type references -/

/-- A site inside one of some items that stand in an array from the index `start` on. -/
inductive ItemSite (siteAt : Json → EnumSite → Prop) (start : Nat) (items : List Json) :
    EnumSite → Prop
  | mk {index : Nat} {item : Json} {inner : EnumSite} (hitem : items[index]? = some item)
      (hinner : siteAt item inner) :
      ItemSite siteAt start items (inner.under (.item (start + index)))

/-- A site inside some items is inside the first of them or inside the others. -/
theorem itemSite_cons {siteAt : Json → EnumSite → Prop} {start : Nat} {item : Json}
    {rest : List Json} {site : EnumSite} :
    ItemSite siteAt start (item :: rest) site ↔
      (∃ inner, siteAt item inner ∧ site = inner.under (.item start)) ∨
        ItemSite siteAt (start + 1) rest site := by
  have hshift (index : Nat) : start + 1 + index = start + (index + 1) := by omega
  constructor
  · intro h
    cases h with
    | @mk index other inner hother hinner =>
      cases index with
      | zero =>
        rw [List.getElem?_cons_zero, Option.some.injEq] at hother
        subst hother
        exact Or.inl ⟨inner, hinner, rfl⟩
      | succ index =>
        rw [← hshift index]
        exact Or.inr (.mk (by simpa using hother) hinner)
  · rintro (⟨inner, hinner, rfl⟩ | h)
    · exact ItemSite.mk (List.getElem?_cons_zero (l := rest)) hinner
    · cases h with
      | @mk index other inner hother hinner =>
        rw [hshift index]
        exact .mk (by simpa using hother) hinner

/-- An order of paths that takes the items of an array by their index. -/
structure ItemOrder (before : Path → Path → Prop) : Prop where
  lt : ∀ i j p q, i < j → before (.item i :: p) (.item j :: q)
  same : ∀ i p q, before p q → before (.item i :: p) (.item i :: q)

/-- Items of an array converted one after the other, behind items that are done.  The sites
do not depend on what has become of those. -/
theorem converts_items_behind {siteAt : Json → EnumSite → Prop} {before : Path → Path → Prop}
    (horder : ItemOrder before) (f : Json → Attempt BridgeError Json) (items : List Json)
    (h : ∀ item ∈ items, bridge.Converts direction (siteAt item) before item (f item).outcome)
    (start : Nat) :
    ∃ sites, Enumerates (ItemSite siteAt start items) before sites ∧
      ∀ done : List Json, done.length = start →
        ((items.mapM f).outcome.map fun new => Json.array (done ++ new)) =
          bridge.convertSites direction sites (.array (done ++ items)) := by
  induction items generalizing start with
  | nil =>
    refine ⟨[], Enumerates.nil fun site hsite => ?_, fun done _ => rfl⟩
    cases hsite with
    | mk hitem _ => simp at hitem
  | cons item rest ih =>
    obtain ⟨sites, henum, hitem⟩ := h item (by simp)
    obtain ⟨more, hmore, hrest⟩ := ih (fun other hother => h other (by simp [hother])) (start + 1)
    refine ⟨sites.map (EnumSite.under (.item start)) ++ more, ?_, fun done hdone => ?_⟩
    · refine ((henum.under (.item start) (horder.same start)).append hmore ?_).congr
        (fun site => itemSite_cons.symm) (fun p q hpq => hpq)
      rintro first second ⟨a, -, rfl⟩ ⟨-, -⟩
      exact horder.lt _ _ _ _ (by omega)
    · have hbelow : (Json.array (done ++ item :: rest)).below? (.item start) = some item := by
        simp [Json.below?, ← hdone]
      rw [convertSites_append, convertSites_under hbelow, ← hitem, List.mapM_cons,
        Attempt.outcome_bind]
      cases (f item).outcome with
      | error e => rfl
      | ok new =>
        have hset : (Json.array (done ++ item :: rest)).replace (.item start) new =
            .array ((done ++ [new]) ++ rest) := by
          simp [Json.replace, ← hdone]
        have hnext := hrest (done ++ [new]) (by simp [hdone])
        simp only [Except.map, Except.bind, Attempt.outcome_bind, hset, ← hnext]
        cases (rest.mapM f).outcome with
        | error e => rfl
        | ok news => simp

/-- **The items of an array**, converted one after the other. -/
theorem converts_items {siteAt : Json → EnumSite → Prop} {before : Path → Path → Prop}
    (horder : ItemOrder before) (f : Json → Attempt BridgeError Json) (items : List Json)
    (h : ∀ item ∈ items, bridge.Converts direction (siteAt item) before item (f item).outcome) :
    bridge.Converts direction (ItemSite siteAt 0 items) before (.array items)
      (Json.array <$> items.mapM f).outcome := by
  obtain ⟨sites, henum, hresult⟩ := converts_items_behind horder f items h 0
  refine ⟨sites, henum, ?_⟩
  rw [Attempt.outcome_map]
  exact hresult [] rfl

/-- A site of a value under a type reference, given the sites of values of a named type. -/
inductive TypeSite (siteAt : String → Json → EnumSite → Prop) :
    TypeRef → Json → EnumSite → Prop
  | named {name : String} {value : Json} {site : EnumSite} (h : siteAt name value site) :
      TypeSite siteAt (.named name) value site
  | nonNull {type : TypeRef} {value : Json} {site : EnumSite}
      (h : TypeSite siteAt type value site) : TypeSite siteAt (.nonNull type) value site
  | item {type : TypeRef} {items : List Json} {index : Nat} {item : Json} {site : EnumSite}
      (hitem : items[index]? = some item) (h : TypeSite siteAt type item site) :
      TypeSite siteAt (.list type) (.array items) (site.under (.item index))

/-- A site of an array under a list type is one inside an item, under the type of items. -/
theorem typeSite_list {siteAt : String → Json → EnumSite → Prop} {type : TypeRef}
    {items : List Json} {site : EnumSite} :
    TypeSite siteAt (.list type) (.array items) site ↔
      ItemSite (TypeSite siteAt type) 0 items site := by
  constructor
  · intro h
    cases h with
    | @item _ _ index item inner hitem hinner =>
      rw [← Nat.zero_add index]
      exact .mk hitem hinner
  · intro h
    cases h with
    | @mk index item inner hitem hinner =>
      rw [Nat.zero_add]
      exact .item hitem hinner

/-- **Values under a type reference.**  If the values of named types are converted, so is
every value under list and non-null markers around them. -/
theorem converts_descend {siteAt : String → Json → EnumSite → Prop}
    {before : Path → Path → Prop} (horder : ItemOrder before)
    (f : String → Json → Attempt BridgeError Json)
    (h : ∀ name value,
      bridge.Converts direction (siteAt name value) before value (f name value).outcome)
    (type : TypeRef) (value : Json) :
    bridge.Converts direction (TypeSite siteAt type value) before value
      (type.descend f value).outcome := by
  induction type generalizing value with
  | named name =>
    refine (h name value).congr (fun site => ⟨.named, ?_⟩) (fun p q hpq => hpq)
    intro hsite
    cases hsite with
    | named hsite => exact hsite
  | nonNull type ih =>
    refine (ih value).congr (fun site => ⟨.nonNull, ?_⟩) (fun p q hpq => hpq)
    intro hsite
    cases hsite with
    | nonNull hsite => exact hsite
  | list type ih =>
    cases value with
    | array items =>
      have hall := converts_items horder (type.descend f) items fun item _ => ih item
      exact hall.congr (fun site => typeSite_list.symm) (fun p q hpq => hpq)
    | _ => exact converts_none before (fun site hsite => nomatch hsite) _

/-! ## Objects -/

/-- A change of the values under some names of an object converts exactly the sites wanted,
in order, in every object that holds the same values under those names. -/
def ConvertsSlots (bridge : Bridge) (direction : Direction) (isSite : EnumSite → Prop)
    (before : Path → Path → Prop) (names : List String) (object : Members)
    (f : Members → Attempt BridgeError Members) : Prop :=
  ∃ sites, Enumerates isSite before sites ∧
    ∀ other : Members, (∀ name ∈ names, other.lookup name = object.lookup name) →
      ((f other).outcome.map Json.object) = bridge.convertSites direction sites (.object other)

/-- A site below the value under a name of an object. -/
inductive SlotSite (siteAt : Json → EnumSite → Prop) (object : Members) (name : String) :
    EnumSite → Prop
  | mk {held : Json} {inner : EnumSite} (hheld : object.lookup name = some held)
      (hinner : siteAt held inner) : SlotSite siteAt object name (inner.under (.member name))

section Slots

variable {isSite : EnumSite → Prop} {before below : Path → Path → Prop} {names : List String}
  {object : Members} {rest : Members → Attempt BridgeError Members}

/-- Where there are no sites, nothing has to be done. -/
theorem ConvertsSlots.nil (h : ∀ site, ¬ isSite site) :
    bridge.ConvertsSlots direction isSite before names object pure :=
  ⟨[], Enumerates.nil h, fun _ _ => rfl⟩

/-- The change serves for any other description of the same sites, for any order that allows as
much, and for more names. -/
theorem ConvertsSlots.congr {others : EnumSite → Prop} {wider : Path → Path → Prop}
    {more : List String} (h : bridge.ConvertsSlots direction isSite before names object rest)
    (hsite : ∀ site, isSite site ↔ others site) (hbefore : ∀ p q, before p q → wider p q)
    (hnames : ∀ name ∈ names, name ∈ more) :
    bridge.ConvertsSlots direction others wider more object rest := by
  obtain ⟨sites, henum, hrest⟩ := h
  refine ⟨sites, henum.congr hsite hbefore, fun other hother => ?_⟩
  exact hrest other fun name hname => hother name (hnames name hname)

/-- **One name after the other.**  The change of the value under one name does not touch the
values under the other names, so what follows finds them as they were. -/
theorem ConvertsSlots.cons {name : String} {f : Json → Attempt BridgeError Json}
    {siteAt : Json → EnumSite → Prop} (hname : name ∉ names)
    (hslot : ∀ held, object.lookup name = some held →
      bridge.Converts direction (siteAt held) below held (f held).outcome)
    (hrest : bridge.ConvertsSlots direction isSite before names object rest)
    (hbelow : ∀ p q, below p q → before (.member name :: p) (.member name :: q))
    (hbetween : ∀ p second, isSite second → before (.member name :: p) second.path) :
    bridge.ConvertsSlots direction (fun site => SlotSite siteAt object name site ∨ isSite site)
      before (name :: names) object
      (fun members => Members.modifyM name f members >>= rest) := by
  obtain ⟨more, hmore, hrest⟩ := hrest
  cases hheld : object.lookup name with
  | none =>
    refine ⟨more, hmore.congr (fun site => ⟨Or.inr, ?_⟩) (fun p q hpq => hpq), ?_⟩
    · rintro (⟨hlookup, -⟩ | hsite)
      · simp [hheld] at hlookup
      · exact hsite
    · intro other hother
      have hnone := (hother name (by simp)).trans hheld
      rw [Attempt.outcome_bind, Members.outcome_modifyM, hnone]
      exact hrest other fun key hkey => hother key (by simp [hkey])
  | some held =>
    obtain ⟨sites, henum, hresult⟩ := hslot held hheld
    refine ⟨sites.map (EnumSite.under (.member name)) ++ more, ?_, fun other hother => ?_⟩
    · refine ((henum.under (.member name) hbelow).append hmore ?_).congr (fun site => ?_)
        (fun p q hpq => hpq)
      · rintro first second ⟨inner, -, rfl⟩ hsecond
        exact hbetween _ _ hsecond
      · refine or_congr ⟨?_, ?_⟩ Iff.rfl
        · rintro ⟨inner, hinner, rfl⟩
          exact .mk hheld hinner
        · rintro ⟨hlookup, hinner⟩
          rw [hheld, Option.some.injEq] at hlookup
          subst hlookup
          exact ⟨_, hinner, rfl⟩
    · have hsome := (hother name (by simp)).trans hheld
      have hstep : (Json.object other).below? (.member name) = some held := hsome
      have hmodify : (Members.modifyM name f other).outcome =
          (f held).outcome.map fun new => Members.replace name new other := by
        rw [Members.outcome_modifyM, hsome]
      rw [convertSites_append, convertSites_under hstep, ← hresult, Attempt.outcome_bind, hmodify]
      cases (f held).outcome with
      | error e => rfl
      | ok new =>
        -- The rest is done in the changed object, which holds the same under the other names.
        refine hrest (Members.replace name new other) fun key hkey => ?_
        have hne : key ≠ name := fun h => hname (h ▸ hkey)
        rw [Members.lookup_replace_of_ne hne]
        exact hother key (by simp [hkey])

/-- What a change of the values under some names makes of an object. -/
theorem ConvertsSlots.converts
    (h : bridge.ConvertsSlots direction isSite before names object rest) :
    bridge.Converts direction isSite before (.object object)
      (Json.object <$> rest object).outcome := by
  obtain ⟨sites, henum, hrest⟩ := h
  refine ⟨sites, henum, ?_⟩
  rw [Attempt.outcome_map]
  exact hrest object fun _ _ => rfl

end Slots

end Bridge

end EnumBridge
