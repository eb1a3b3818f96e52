import EnumBridge.Proofs.MetValue
import EnumBridge.Proofs.ResponseFrame
import EnumBridge.Proofs.RoundTrip

/-!
# Null is never converted

A function for an enum is never given a null, so functions that differ in what they make of null
cannot be told apart, and a null comes out as a null unless something around it is converted.

`NullsStay` is the relation between a value and what a walk makes of it.  Walks may follow each
other (`NullsStay.trans`), so that only one step of each walk has to be looked at.  What is around a
null in a response is said by `ObjectVisits`, which follows the walk: of fields that share a
response key, the second finds what the first has left.  Where no fields share a key, these are the
sites of the object as it was (`ObjectVisits.objectSite`).

The main statement is `null_not_converted`.
-/

set_option autoImplicit false

namespace EnumBridge

/-- A path leads to a value, and the other path further into that value. -/
def Path.Above (above path : Path) : Prop := ∃ step rest, path = above ++ step :: rest

/-- What is above a path is above it one step further out. -/
theorem Path.above_cons {step : Step} {above path : Path} (h : Path.Above above path) :
    Path.Above (step :: above) (step :: path) := by
  obtain ⟨next, rest, rfl⟩ := h
  exact ⟨next, rest, rfl⟩

/-- A path below a step begins with that step. -/
theorem Path.Above.cons_cases {step : Step} {above path : Path}
    (h : Path.Above (step :: above) path) :
    ∃ rest, path = step :: rest ∧ Path.Above above rest := by
  obtain ⟨next, rest, rfl⟩ := h
  exact ⟨above ++ next :: rest, rfl, next, rest, rfl⟩

/-- Every null inside a value is still there in the new value, unless one of the sites is above
it. -/
def NullsStay (isSite : EnumSite → Prop) (value new : Json) : Prop :=
  ∀ path : Path, value.at? path = some .null →
    new.at? path = some .null ∨ ∃ site, isSite site ∧ site.path.Above path

namespace NullsStay

variable {isSite isOther : EnumSite → Prop} {value new newer : Json}

/-- Nulls stay in a value that is left as it is. -/
theorem refl (value : Json) : NullsStay isSite value value := fun _ hnull => Or.inl hnull

/-- Nulls that stay up to some sites stay up to more. -/
theorem mono (h : NullsStay isSite value new) (hsub : ∀ site, isSite site → isOther site) :
    NullsStay isOther value new := by
  intro path hnull
  rcases h path hnull with hstays | ⟨site, hsite, habove⟩
  · exact Or.inl hstays
  · exact Or.inr ⟨site, hsub site hsite, habove⟩

/-- Nulls that stay in two changes, one after the other, stay in both together. -/
theorem trans (h : NullsStay isSite value new) (h' : NullsStay isSite new newer) :
    NullsStay isSite value newer := by
  intro path hnull
  rcases h path hnull with hstays | hsite
  · exact h' path hstays
  · exact Or.inr hsite

/-- An enum value may become anything: whatever is inside it, is below its site. -/
theorem of_site {enumName : String} (hvalue : value.isNull = false)
    (h : isSite ⟨[], enumName, value⟩) : NullsStay isSite value new := by
  intro path hnull
  cases path with
  | nil =>
    cases hnull
    cases hvalue
  | cons step rest => exact Or.inr ⟨_, h, step, rest, rfl⟩

/-- In an array or an object nulls stay if they stay in everything that is one step inside it. -/
theorem of_below (hvalue : value.isNull = false)
    (h : ∀ step inner, value.below? step = some inner → ∃ other, new.below? step = some other ∧
      NullsStay (fun site => isSite (site.under step)) inner other) :
    NullsStay isSite value new := by
  intro path hnull
  cases path with
  | nil =>
    cases hnull
    cases hvalue
  | cons step rest =>
    rw [Json.at?] at hnull ⊢
    obtain ⟨inner, hinner, hnull⟩ := Option.bind_eq_some_iff.mp hnull
    obtain ⟨other, hother, hstays⟩ := h step inner hinner
    rw [hother, Option.bind_some]
    rcases hstays rest hnull with hrest | ⟨site, hsite, habove⟩
    · exact Or.inl hrest
    · exact Or.inr ⟨site.under step, hsite, Path.above_cons habove⟩

end NullsStay

/-- Where a list of attempts succeeds, each of them does. -/
theorem Attempt.getElem?_of_mapM {ε α β : Type} {f : α → Attempt ε β} {items : List α}
    {news : List β} (h : (items.mapM f).outcome = .ok news) {index : Nat} {item : α}
    (hitem : items[index]? = some item) :
    ∃ new, news[index]? = some new ∧ (f item).outcome = .ok new := by
  induction items generalizing index news with
  | nil => cases hitem
  | cons first rest ih =>
    rw [List.mapM_cons] at h
    obtain ⟨new, hnew, hnext⟩ := Attempt.outcome_bind_eq_ok.mp h
    obtain ⟨others, hothers, hpure⟩ := Attempt.outcome_bind_eq_ok.mp hnext
    cases hpure
    cases index with
    | zero =>
      cases hitem
      exact ⟨new, rfl, hnew⟩
    | succ index => exact ih hothers hitem

/-- Nulls stay in an array, if they stay in its items. -/
theorem nullsStay_mapM {ε : Type} {isSite : EnumSite → Prop} {f : Json → Attempt ε Json}
    {items news : List Json}
    (hitem : ∀ index item new, items[index]? = some item → (f item).outcome = .ok new →
      NullsStay (fun site => isSite (site.under (.item index))) item new)
    (h : (items.mapM f).outcome = .ok news) : NullsStay isSite (.array items) (.array news) := by
  refine NullsStay.of_below rfl fun step inner hinner => ?_
  cases step with
  | member name => cases hinner
  | item index =>
    obtain ⟨new, hnew, hf⟩ := Attempt.getElem?_of_mapM h hinner
    exact ⟨new, hnew, hitem index inner new hinner hf⟩

/-- Nulls stay in an object when the value under one name is changed, if they stay in that value. -/
theorem nullsStay_modifyM {ε : Type} {isSite : EnumSite → Prop} {name : String}
    {f : Json → Attempt ε Json} {members result : Members}
    (hheld : ∀ held new, members.lookup name = some held → (f held).outcome = .ok new →
      NullsStay (fun site => isSite (site.under (.member name))) held new)
    (h : (Members.modifyM name f members).outcome = .ok result) :
    NullsStay isSite (.object members) (.object result) := by
  refine NullsStay.of_below rfl fun step held hlookup => ?_
  cases step with
  | item index => cases hlookup
  | member key =>
    obtain ⟨new, hnew, hchanged⟩ := Members.lookup_of_modifyM h hlookup
    refine ⟨new, hnew, ?_⟩
    split at hchanged
    · next hkey =>
      subst hkey
      exact hheld held new hlookup hchanged
    · rw [hchanged]
      exact NullsStay.refl held

/-- Nulls stay under list and non-null markers, if they stay at the named type. -/
theorem nullsStay_descend {ε : Type} {f : String → Json → Attempt ε Json}
    (sites : TypeRef → Json → EnumSite → Prop)
    (hnonNull : ∀ type value site, sites type value site → sites (.nonNull type) value site)
    (hitem : ∀ type items index item site, items[index]? = some item → sites type item site →
      sites (.list type) (.array items) (site.under (.item index)))
    (hnamed : ∀ name value new, (f name value).outcome = .ok new →
      NullsStay (sites (.named name) value) value new)
    {type : TypeRef} {value new : Json} (h : (type.descend f value).outcome = .ok new) :
    NullsStay (sites type value) value new := by
  induction type generalizing value new with
  | named name => exact hnamed name value new h
  | nonNull type ih => exact (ih h).mono (hnonNull type value)
  | list type ih =>
    cases value with
    | array items =>
      rw [TypeRef.descend] at h
      obtain ⟨news, hnews, rfl⟩ := Attempt.outcome_map_eq_ok.mp h
      refine nullsStay_mapM (fun index item new hindex hnew => ?_) hnews
      exact (ih hnew).mono fun site => hitem type items index item site hindex
    | _ =>
      cases h
      exact NullsStay.refl _

/-! ## Sites in variables -/

/-- A site of a value is a site of it whatever non-null markers are put around its type. -/
theorem InputSite.of_shape {schema : Schema} {type : TypeRef} {value : Json} {site : EnumSite}
    (h : InputSite schema type.shape.type value site) : InputSite schema type value site := by
  induction type with
  | named name => exact h
  | list item _ => exact h
  | nonNull type ih => exact .nonNull (ih h)

/-- The way to an input value goes by types only.  If a path leads beyond the place of a site and
comes to something in another value of the same type, that place is a site of the other value. -/
theorem InputSite.of_above {schema : Schema} {type : TypeRef} {value other inner : Json}
    {site : EnumSite} {path : Path} (h : InputSite schema type other site)
    (habove : site.path.Above path) (hpath : value.at? path = some inner) :
    ∃ held, InputSite schema type value ⟨site.path, site.enumName, held⟩ := by
  induction h generalizing value path with
  | nonNull _ ih =>
    obtain ⟨held, hsite⟩ := ih habove hpath
    exact ⟨held, .nonNull hsite⟩
  | @item type items index item site _ _ ih =>
    obtain ⟨rest, rfl, hrest⟩ := habove.cons_cases
    rw [Json.at?] at hpath
    obtain ⟨below, hbelow, hpath⟩ := Option.bind_eq_some_iff.mp hpath
    obtain ⟨held, hsite⟩ := ih hrest hpath
    cases value with
    | array others => exact ⟨held, .item hbelow hsite⟩
    | _ => cases hbelow
  | «enum» henum _ =>
    obtain ⟨step, rest, rfl⟩ := habove
    have hvalue : value.isNull = false := by
      cases value with
      | null => cases step <;> cases hpath
      | _ => rfl
    exact ⟨value, .enum henum hvalue⟩
  | @member name key type fields members field old site hfind hbody hfield _ _ ih =>
    obtain ⟨rest, rfl, hrest⟩ := habove.cons_cases
    rw [Json.at?] at hpath
    obtain ⟨below, hbelow, hpath⟩ := Option.bind_eq_some_iff.mp hpath
    obtain ⟨held, hsite⟩ := ih hrest hpath
    cases value with
    | object others => exact ⟨held, .member hfind hbody hfield hbelow hsite⟩
    | _ => cases hbelow

/-- If a site is met in the variables as they have become, and a path from the place of it leads
further in the variables as they were, then it was a site of these. -/
theorem VariableSite.of_above {schema : Schema} {definitions : List VariableDefinition}
    {values others : Members} {inner : Json} {site : EnumSite} {path : Path}
    (h : VariableSite schema definitions others site) (habove : site.path.Above path)
    (hpath : (Json.object values).at? path = some inner) :
    ∃ held, VariableSite schema definitions values ⟨site.path, site.enumName, held⟩ := by
  obtain ⟨hdefinition, -, hinput⟩ := h
  obtain ⟨rest, rfl, hrest⟩ := Path.Above.cons_cases habove
  rw [Json.at?] at hpath
  obtain ⟨below, hbelow, hpath⟩ := Option.bind_eq_some_iff.mp hpath
  obtain ⟨held, hsite⟩ := InputSite.of_above hinput hrest hpath
  exact ⟨held, .mk hdefinition hbelow hsite⟩

/-- A site under one of some definitions is a site under one of more definitions. -/
theorem VariableSite.cons {schema : Schema} {definition : VariableDefinition}
    {rest : List VariableDefinition} {values : Members} {site : EnumSite}
    (h : VariableSite schema rest values site) :
    VariableSite schema (definition :: rest) values site := by
  obtain ⟨hmem, hheld, hinput⟩ := h
  exact .mk (List.mem_cons_of_mem definition hmem) hheld hinput

namespace Bridge

variable {bridge : Bridge}

/-- Nulls stay when an enum value is converted, if the value is itself a site. -/
theorem nullsStay_convert {isSite : EnumSite → Prop} {enumName : String} {direction : Direction}
    {value new : Json} (hsite : value.isNull = false → isSite ⟨[], enumName, value⟩)
    (h : (bridge.convert enumName direction value).outcome = .ok new) :
    NullsStay isSite value new := by
  cases hvalue : value.isNull with
  | false => exact NullsStay.of_site hvalue (hsite hvalue)
  | true =>
    rw [Json.eq_null_of_isNull hvalue, outcome_convert_null] at h
    cases h
    rw [Json.eq_null_of_isNull hvalue]
    exact NullsStay.refl .null

/-! ## Nulls in variables -/

/-- Nulls stay in a value that is not walked any further. -/
theorem nullsStay_inputLeaf {name : String} {value new : Json}
    (h : (bridge.inputLeaf name value).outcome = .ok new) :
    NullsStay (InputSite bridge.schema (.named name) value) value new := by
  by_cases hboth : bridge.schema.IsEnum name ∧ value.isNull = false
  · obtain ⟨enumName, henum⟩ := Schema.exists_hasEnum_iff.mpr hboth.1
    rw [outcome_inputLeaf_of_hasEnum bridge value henum] at h
    exact nullsStay_convert (fun hvalue => .enum henum hvalue) h
  · rw [outcome_inputLeaf_of_not bridge hboth] at h
    cases h
    exact NullsStay.refl value

/-- Nulls stay in a value that is not walked any further, with non-null markers around its type. -/
theorem nullsStay_inputLeaf_of_shape {type : TypeRef} {name : String} {value new : Json}
    (hshape : type.shape = .named name) (h : (bridge.inputLeaf name value).outcome = .ok new) :
    NullsStay (InputSite bridge.schema type value) value new := by
  refine (nullsStay_inputLeaf h).mono fun site hsite => InputSite.of_shape ?_
  rw [hshape]
  exact hsite

/-- What becomes of a member: if it is declared, what its walk makes of it; otherwise nothing. -/
def MemberBecomes (bridge : Bridge) (fields : FieldTable) (key : String) (held new : Json) : Prop :=
  match fields.lookup key with
  | some field => (bridge.inputValue field held).outcome = .ok new
  | none => new = held

/-- The members of an input object are walked one by one, each under its own name. -/
theorem inputMembers_cons_eq_ok {fields : FieldTable} {name : String} {value : Json}
    {rest result : Members}
    (h : (bridge.inputMembers fields ((name, value) :: rest)).outcome = .ok result) :
    ∃ new others, bridge.MemberBecomes fields name value new ∧
      (bridge.inputMembers fields rest).outcome = .ok others ∧ result = (name, new) :: others := by
  unfold MemberBecomes
  rw [inputMembers] at h
  cases hfield : fields.lookup name with
  | none =>
    simp only [hfield] at h
    obtain ⟨new, hnew, hnext⟩ := Attempt.outcome_bind_eq_ok.mp h
    obtain ⟨others, hothers, hpure⟩ := Attempt.outcome_bind_eq_ok.mp hnext
    cases hnew
    cases hpure
    exact ⟨value, others, rfl, hothers, rfl⟩
  | some field =>
    simp only [hfield] at h
    obtain ⟨new, hnew, hnext⟩ := Attempt.outcome_bind_eq_ok.mp h
    obtain ⟨others, hothers, hpure⟩ := Attempt.outcome_bind_eq_ok.mp hnext
    cases hpure
    exact ⟨new, others, hnew, hothers, rfl⟩

/-- Under the name of a member what has become of the member is found. -/
theorem lookup_of_inputMembers {fields : FieldTable} {members result : Members}
    (h : (bridge.inputMembers fields members).outcome = .ok result) {key : String} {held : Json}
    (hheld : members.lookup key = some held) :
    ∃ new, result.lookup key = some new ∧ bridge.MemberBecomes fields key held new := by
  induction members generalizing result with
  | nil => cases hheld
  | cons member rest ih =>
    obtain ⟨name, value⟩ := member
    obtain ⟨first, others, hfirst, hothers, rfl⟩ := inputMembers_cons_eq_ok h
    by_cases hkey : key = name
    · subst hkey
      rw [List.lookup_cons_self, Option.some.injEq] at hheld
      subst hheld
      exact ⟨first, List.lookup_cons_self, hfirst⟩
    · rw [Table.lookup_cons_of_ne hkey] at hheld ⊢
      exact ih hothers hheld

/-- Nulls stay in an input object, if they stay in its members that are declared. -/
theorem nullsStay_inputMembers {name : String} {type : TypeDef} {fields : FieldTable}
    {members result : Members} (hfind : bridge.schema.find? name = some type)
    (hbody : type.body = .inputObject fields)
    (hmember : ∀ member ∈ members, ∀ field new,
      (bridge.inputValue field member.2).outcome = .ok new →
        NullsStay (InputSite bridge.schema field member.2) member.2 new)
    (h : (bridge.inputMembers fields members).outcome = .ok result) :
    NullsStay (InputSite bridge.schema (.named name) (.object members)) (.object members)
      (.object result) := by
  refine NullsStay.of_below rfl fun step held hheld => ?_
  cases step with
  | item index => cases hheld
  | member key =>
    obtain ⟨new, hnew, hchanged⟩ := lookup_of_inputMembers h hheld
    refine ⟨new, hnew, ?_⟩
    unfold MemberBecomes at hchanged
    cases hfield : fields.lookup key with
    | none =>
      rw [hfield] at hchanged
      rw [hchanged]
      exact NullsStay.refl held
    | some field =>
      rw [hfield] at hchanged
      obtain ⟨front, back, hsplit, -⟩ := List.lookup_eq_some_iff.mp hheld
      have hmem : (key, held) ∈ members := by simp [hsplit]
      have hstays := hmember (key, held) hmem field new hchanged
      exact hstays.mono fun site => .member hfind hbody hfield hheld

/-- Nulls stay in a value for a variable or an input field. -/
theorem nullsStay_inputValue {type : TypeRef} {value new : Json}
    (h : (bridge.inputValue type value).outcome = .ok new) :
    NullsStay (InputSite bridge.schema type value) value new := by
  -- The value gets smaller on the way in; the type of a member may be any other.
  induction value using Json.inside_induction generalizing type new with
  | leaf value harray hobject =>
    cases value with
    | null =>
      rw [inputValue] at h
      cases h
      exact NullsStay.refl .null
    | array items => cases harray
    | object members => cases hobject
    | _ =>
      simp only [inputValue] at h
      cases hshape : type.shape with
      | named name =>
        rw [hshape] at h
        exact nullsStay_inputLeaf_of_shape hshape h
      | list item =>
        rw [hshape] at h
        cases h
        exact NullsStay.refl _
  | array items ih =>
    rw [inputValue] at h
    cases hshape : type.shape with
    | named name =>
      rw [hshape] at h
      exact nullsStay_inputLeaf_of_shape hshape h
    | list item =>
      simp only [hshape, inputItems_eq_mapM] at h
      obtain ⟨news, hnews, rfl⟩ := Attempt.outcome_map_eq_ok.mp h
      refine nullsStay_mapM (fun index inner new hindex hnew => ?_) hnews
      have hstays := ih inner (List.mem_of_getElem? hindex) hnew
      refine hstays.mono fun site hsite => ?_
      apply InputSite.of_shape
      rw [hshape]
      exact .item hindex hsite
  | object members ih =>
    rw [inputValue] at h
    cases hshape : type.shape with
    | list item =>
      rw [hshape] at h
      cases h
      exact NullsStay.refl _
    | named name =>
      cases hfields : bridge.inputFields? name with
      | none =>
        simp only [hshape, hfields] at h
        exact nullsStay_inputLeaf_of_shape hshape h
      | some fields =>
        simp only [hshape, hfields] at h
        obtain ⟨result, hresult, rfl⟩ := Attempt.outcome_map_eq_ok.mp h
        obtain ⟨declared, hfind, hbody⟩ := (inputFields?_eq_some bridge).mp hfields
        have hstays := nullsStay_inputMembers hfind hbody
          (fun member hmember field new => ih member hmember) hresult
        refine hstays.mono fun site hsite => ?_
        apply InputSite.of_shape
        rw [hshape]
        exact hsite

/-- Nulls stay in variables, also in those that are defined more than once: what a later definition
finds above a null has been there from the start. -/
theorem nullsStay_variableValues {definitions : List VariableDefinition} {values out : Members}
    (h : (bridge.variableValues definitions values).outcome = .ok out) :
    NullsStay (VariableSite bridge.schema definitions values) (.object values) (.object out) := by
  induction definitions generalizing values with
  | nil =>
    cases h
    exact NullsStay.refl _
  | cons definition rest ih =>
    rw [variableValues_cons] at h
    obtain ⟨next, hnext, hrest⟩ := Attempt.outcome_bind_eq_ok.mp h
    have hfirst : NullsStay (VariableSite bridge.schema (definition :: rest) values)
        (.object values) (.object next) := by
      refine nullsStay_modifyM (fun held new hheld hnew => ?_) hnext
      rw [← outcome_inputValue] at hnew
      exact (nullsStay_inputValue hnew).mono fun site hsite =>
        .mk List.mem_cons_self hheld hsite
    intro path hnull
    rcases hfirst path hnull with hstays | hsite
    · rcases ih hrest path hstays with hstays | ⟨site, hsite, habove⟩
      · exact Or.inl hstays
      · obtain ⟨held, hfound⟩ := hsite.of_above habove hnull
        exact Or.inr ⟨_, hfound.cons, habove⟩
    · exact Or.inr hsite

end Bridge

/-! ## Nulls in a response -/

namespace Bridge

variable {bridge : Bridge}

mutual

/-- The walk along some selected fields comes to an enum value at this site.  The members are those
of an object whose type has the given fields. -/
inductive ObjectVisits (bridge : Bridge) :
    FieldTable → List FieldNode → Members → EnumSite → Prop
  | here {types : FieldTable} {node : FieldNode} {rest : List FieldNode} {object : Members}
      {type : TypeRef} {held : Json} {site : EnumSite}
      (htype : types.lookup node.label.name = some type)
      (hheld : object.lookup node.label.responseKey = some held)
      (h : FieldVisits bridge node type held site) :
      ObjectVisits bridge types (node :: rest) object (site.under (.member node.label.responseKey))
  | behind {types : FieldTable} {node : FieldNode} {rest : List FieldNode}
      {object next : Members} {site : EnumSite}
      (hnext : (bridge.parseField types node object).outcome = .ok next)
      (h : ObjectVisits bridge types rest next site) :
      ObjectVisits bridge types (node :: rest) object site

/-- The walk over the value of a selected field of that type comes to an enum value at this
site. -/
inductive FieldVisits (bridge : Bridge) : FieldNode → TypeRef → Json → EnumSite → Prop
  | enum {node : FieldNode} {typeName enumName : String} {value : Json}
      (henum : bridge.schema.HasEnum typeName enumName) (hvalue : value.isNull = false) :
      FieldVisits bridge node (.named typeName) value ⟨[], enumName, value⟩
  | nonNull {node : FieldNode} {type : TypeRef} {value : Json} {site : EnumSite}
      (h : FieldVisits bridge node type value site) :
      FieldVisits bridge node (.nonNull type) value site
  | item {node : FieldNode} {type : TypeRef} {items : List Json} {index : Nat} {item : Json}
      {site : EnumSite} (hitem : items[index]? = some item)
      (h : FieldVisits bridge node type item site) :
      FieldVisits bridge node (.list type) (.array items) (site.under (.item index))
  | object {label : FieldLabel} {children : List FieldNode} {name : String} {type : TypeDef}
      {object : Members} {fields : FieldTable} {site : EnumSite}
      (hfind : bridge.schema.find? name = some type)
      (hfields : PayloadFields bridge.schema type object fields)
      (h : ObjectVisits bridge fields children object site) :
      FieldVisits bridge (.branch label children) (.named name) (.object object) site

end

/-- A field in front leaves the values under other response keys as they are. -/
theorem lookup_of_parseField {types : FieldTable} {node : FieldNode} {object next : Members}
    (h : (bridge.parseField types node object).outcome = .ok next) {key : String}
    (hkey : key ≠ node.label.responseKey) : next.lookup key = object.lookup key := by
  rw [parseField_eq] at h
  cases htype : types.lookup node.label.name with
  | none =>
    rw [htype] at h
    cases h
    rfl
  | some type =>
    simp only [htype, Members.outcome_modifyM] at h
    cases hheld : object.lookup node.label.responseKey with
    | none =>
      simp only [hheld] at h
      cases h
      rfl
    | some held =>
      simp only [hheld] at h
      cases hnew : (type.descend (bridge.namedValue node) held).outcome with
      | error e =>
        rw [hnew] at h
        cases h
      | ok new =>
        rw [hnew] at h
        cases h
        exact Members.lookup_replace_of_ne hkey new object

mutual

/-- **Sites that are visited.**  If no two fields of one selection set share a response key, the
walk comes to sites of the object as it was only. -/
theorem ObjectVisits.objectSite {types : FieldTable} {nodes : List FieldNode} {object : Members}
    {site : EnumSite} (hkeys : DistinctBy FieldLabel.responseKey nodes) :
    ObjectVisits bridge types nodes object site → ObjectSite bridge.schema types nodes object site
  | .here htype hheld h =>
    have hbelow := hkeys.children List.mem_cons_self
    .mk List.mem_cons_self htype hheld (FieldVisits.fieldSite hbelow h)
  | .behind hnext h => by
    obtain ⟨hother, hrest⟩ := hkeys.of_cons
    obtain ⟨hnode, htype, hheld, hinner⟩ := ObjectVisits.objectSite hrest h
    rw [lookup_of_parseField hnext (hother _ hnode)] at hheld
    exact .mk (List.mem_cons_of_mem _ hnode) htype hheld hinner

/-- If no two fields of one selection set share a response key, the walk over the value of a field
comes to sites of the value as it was only. -/
theorem FieldVisits.fieldSite {node : FieldNode} {type : TypeRef} {value : Json} {site : EnumSite}
    (hkeys : DistinctBy FieldLabel.responseKey node.children) :
    FieldVisits bridge node type value site → FieldSite bridge.schema node type value site
  | .enum henum hvalue => .enum henum hvalue
  | .nonNull h => .nonNull (FieldVisits.fieldSite hkeys h)
  | .item hitem h => .item hitem (FieldVisits.fieldSite hkeys h)
  | .object hfind hfields h => .object hfind hfields (ObjectVisits.objectSite hkeys h)

end

/-- Nulls stay in a value at a named type without fields below, if the value of an enum is a
site. -/
theorem nullsStay_outputLeaf {isSite : EnumSite → Prop} {name : String} {value new : Json}
    (hsite : ∀ {enumName}, bridge.schema.HasEnum name enumName → value.isNull = false →
      isSite ⟨[], enumName, value⟩)
    (h : (bridge.outputLeaf name value).outcome = .ok new) : NullsStay isSite value new := by
  by_cases hboth : bridge.schema.IsEnum name ∧ value.isNull = false
  · obtain ⟨enumName, henum⟩ := Schema.exists_hasEnum_iff.mpr hboth.1
    rw [outcome_outputLeaf_of_hasEnum bridge henum hboth.2] at h
    exact nullsStay_convert (hsite henum) h
  · rw [outcome_outputLeaf_of_not bridge hboth] at h
    cases h
    exact NullsStay.refl value

mutual

/-- Nulls stay in a value at a named type, up to the sites that the walk comes to. -/
theorem nullsStay_namedValue (node : FieldNode) {name : String} {value new : Json}
    (h : (bridge.namedValue node name value).outcome = .ok new) :
    NullsStay (FieldVisits bridge node (.named name) value) value new := by
  cases node with
  | leaf label => exact nullsStay_outputLeaf .enum h
  | branch label children =>
    cases value with
    | object inner =>
      cases hcomposite : bridge.composite? name with
      | none =>
        simp only [namedValue, hcomposite] at h
        exact nullsStay_outputLeaf .enum h
      | some composite =>
        have hfind := ((composite?_eq_some bridge).mp hcomposite).1
        obtain ⟨result, hresult, hiff⟩ := payloadFields?_spec bridge composite inner
        simp only [namedValue, hcomposite] at h
        rw [Attempt.outcome_bind, hresult] at h
        cases result with
        | none =>
          cases h
          exact NullsStay.refl _
        | some fields =>
          have hfields := (hiff fields).mp rfl
          obtain ⟨parsed, hparsed, rfl⟩ := Attempt.outcome_map_eq_ok.mp h
          exact (nullsStay_parseFields children hparsed).mono fun site => .object hfind hfields
    | _ => exact nullsStay_outputLeaf .enum h

/-- Nulls stay in an object, up to the sites that the walk along the selected fields comes to. -/
theorem nullsStay_parseFields (nodes : List FieldNode) {types : FieldTable}
    {object result : Members} (h : (bridge.parseFields types nodes object).outcome = .ok result) :
    NullsStay (ObjectVisits bridge types nodes object) (.object object) (.object result) := by
  cases nodes with
  | nil =>
    rw [parseFields] at h
    cases h
    exact NullsStay.refl _
  | cons node rest =>
    rw [parseFields] at h
    obtain ⟨middle, hmiddle, hrest⟩ := Attempt.outcome_bind_eq_ok.mp h
    -- The fields behind find the nulls that are left, and visit what the first one made.
    have hbehind : NullsStay (ObjectVisits bridge types (node :: rest) object) (.object middle)
        (.object result) := (nullsStay_parseFields rest hrest).mono fun site => .behind hmiddle
    refine NullsStay.trans ?_ hbehind
    rw [parseField_eq] at hmiddle
    cases htype : types.lookup node.label.name with
    | none =>
      rw [htype] at hmiddle
      cases hmiddle
      exact NullsStay.refl _
    | some type =>
      simp only [htype] at hmiddle
      refine nullsStay_modifyM (fun held new hheld hnew => ?_) hmiddle
      have hvalue : NullsStay (FieldVisits bridge node type held) held new :=
        nullsStay_descend (FieldVisits bridge node) (fun type value site => .nonNull)
          (fun type items index item site => .item)
          (fun name value new => nullsStay_namedValue node) hnew
      exact hvalue.mono fun site => .here htype hheld

end

end Bridge

/-! ## Two rulebooks that differ on null -/

/-- Two functions agree on every value that is not null. -/
def Converter.SameOffNull (convert other : Converter) : Prop :=
  ∀ value, value.isNull = false → convert value = other value

/-- Two rulebooks have the same value tables and styles, and functions for the same enums, which
agree on every value that is not null. -/
structure Rulebook.SameOffNull (rules others : Rulebook) : Prop where
  valueTables : ∀ enumName, rules.valueTables.lookup enumName = others.valueTables.lookup enumName
  styles : ∀ enumName direction,
    rules.styles.target? enumName direction = others.styles.target? enumName direction
  functions : ∀ enumName direction, Option.Rel Converter.SameOffNull
    ((rules.functions direction).lookup enumName) ((others.functions direction).lookup enumName)

/-- Rulebooks that differ on null at most convert every value alike, since a null is never given to
a rule. -/
theorem Rulebook.SameOffNull.convert_eq {rules others : Rulebook} (h : rules.SameOffNull others)
    (enumName : String) (direction : Direction) (value : Json) :
    rules.convert enumName direction value = others.convert enumName direction value := by
  unfold convert
  split
  · rfl
  · next hvalue =>
    have happly : (rules.rule enumName direction).apply value =
        (others.rule enumName direction).apply value := by
      unfold rule function? table? style?
      rw [h.valueTables, h.styles]
      have hfunctions := h.functions enumName direction
      generalize (rules.functions direction).lookup enumName = function? at hfunctions ⊢
      generalize (others.functions direction).lookup enumName = other? at hfunctions ⊢
      cases hfunctions with
      | none => rfl
      | some hsame => exact hsame value (eq_false_of_ne_true hvalue)
    rw [happly]

/-- What parsing the data of a response starts with: the fields of the root type of the operation
of that name, and the field trees of the operation. -/
inductive Document.StartsWith (document : Document) (schema : Schema)
    (operationName : Option String) : FieldTable → List FieldNode → Prop
  | mk {operation : Operation} {root : TypeDef} {fields : FieldTable} {nodes : List FieldNode}
      (hoperation : document.operation? operationName = some operation)
      (hroot : schema.root? operation.kind = some root)
      (hfields : root.objectFields? = some fields)
      (hnodes : (flatten document.fragmentTable operation.selections).outcome = .ok nodes) :
      StartsWith document schema operationName fields nodes

namespace Bridge

variable {bridge : Bridge} {document : Document} {operationName : Option String}

/-- Data that is parsed comes back as it was, or its members are walked. -/
theorem eq_or_parseFields_of_parseData {data out : Json}
    (h : (bridge.parseData document operationName data).outcome = .ok out) :
    out = data ∨ ∃ types nodes members parsed,
      document.StartsWith bridge.schema operationName types nodes ∧ data = .object members ∧
        (bridge.parseFields types nodes members).outcome = .ok parsed ∧ out = .object parsed := by
  rcases parseData_eq_ok_or bridge document operationName data with
    hsame | ⟨operation, root, fields, members, hoperation, hroot, hfields, rfl⟩
  · rw [hsame] at h
    cases h
    exact Or.inl rfl
  · rw [parseData_eq bridge hoperation hroot hfields] at h
    obtain ⟨nodes, hnodes, hparsed⟩ := Attempt.outcome_bind_eq_ok.mp h
    have hflatten := Attempt.outcome_mapError_eq_ok.mp hnodes
    obtain ⟨parsed, hresult, rfl⟩ := Attempt.outcome_map_eq_ok.mp hparsed
    exact Or.inr ⟨fields, nodes, members, parsed, .mk hoperation hroot hfields hflatten, rfl,
      hresult, rfl⟩

end Bridge

/-- **Null is never converted.**  Rulebooks that say the same but for what their functions make of
null give the same results, errors and notes among them.  A null in the variables is null in the
variables that come out, unless there is an enum value around it; and so is a null in the data of a
response.  The enum values there are those that the walk comes to, which are the sites of the data
as it was if no two fields of one selection set share a response key. -/
theorem null_not_converted (schema : Schema) (rules others : Rulebook)
    (hsame : rules.SameOffNull others) (document : Document) (operationName : Option String) :
    let first : Bridge := ⟨schema, rules⟩
    let second : Bridge := ⟨schema, others⟩
    (∀ values, first.serializeVariables document operationName values =
      second.serializeVariables document operationName values) ∧
    (∀ data, first.parseData document operationName data =
      second.parseData document operationName data) ∧
    (∀ values out, (first.serializeVariables document operationName values).outcome = .ok out →
      ∀ path : Path, (Json.object values).at? path = some .null →
        (Json.object out).at? path = some .null ∨
          ∃ operation site, document.operation? operationName = some operation ∧
            VariableSite schema operation.variableDefinitions values site ∧
            site.path.Above path) ∧
    ∀ data out, (first.parseData document operationName data).outcome = .ok out →
      ∀ path : Path, data.at? path = some .null →
        out.at? path = some .null ∨
          ∃ types nodes members site, document.StartsWith schema operationName types nodes ∧
            data = .object members ∧ first.ObjectVisits types nodes members site ∧
            site.path.Above path ∧
            (DistinctBy FieldLabel.responseKey nodes →
              ObjectSite schema types nodes members site) := by
  intro first second
  have halike (direction : Direction) (meets : String → Json → Prop) :
      rules.AlikeOn others direction meets :=
    fun enumName value _ => hsame.convert_eq enumName direction value
  refine ⟨fun values => Bridge.serializeVariables_congr (halike .toServer _),
    fun data => Bridge.parseData_congr (halike .toClient _), ?_, ?_⟩
  · intro values out h path hnull
    unfold Bridge.serializeVariables at h
    cases hoperation : document.operation? operationName with
    | none =>
      rw [hoperation] at h
      cases h
      exact Or.inl hnull
    | some operation =>
      simp only [hoperation] at h
      rcases Bridge.nullsStay_variableValues h path hnull with hstays | ⟨site, hsite, habove⟩
      · exact Or.inl hstays
      · exact Or.inr ⟨operation, site, rfl, hsite, habove⟩
  · intro data out h path hnull
    rcases Bridge.eq_or_parseFields_of_parseData h with
      rfl | ⟨types, nodes, members, parsed, hstarts, rfl, hparsed, rfl⟩
    · exact Or.inl hnull
    · rcases Bridge.nullsStay_parseFields nodes hparsed path hnull with
        hstays | ⟨site, hvisits, habove⟩
      · exact Or.inl hstays
      · exact Or.inr ⟨types, nodes, members, site, hstarts, rfl, hvisits, habove,
          fun hkeys => hvisits.objectSite hkeys⟩

/-- Functions that leave colours as they are. -/
def plainRules : Rulebook :=
  .ofSettings
    [.function .toServer "Colour" fun value => .ok value,
      .function .toClient "Colour" fun value => .ok value]

/-- Functions that leave colours as they are, and would not know what to make of null. -/
def pickyRules : Rulebook :=
  .ofSettings
    [.function .toServer "Colour" fun value =>
        if value.isNull then .error (.message "no colour") else .ok value,
      .function .toClient "Colour" fun value =>
        if value.isNull then .ok (.string "no colour") else .ok value]

/-- The functions differ in what they make of null, and in nothing else. -/
theorem plainRules_sameOffNull : plainRules.SameOffNull pickyRules where
  valueTables enumName := rfl
  styles enumName direction := rfl
  functions enumName direction := by
    have htable (convert other : Converter) (h : convert.SameOffNull other) :
        Option.Rel Converter.SameOffNull (List.lookup enumName [("Colour", convert)])
          (List.lookup enumName [("Colour", other)]) := by
      rw [List.lookup_cons, List.lookup_cons]
      cases enumName == "Colour" with
      | true => exact .some h
      | false => exact .none
    cases direction with
    | toServer => exact htable _ _ fun value hvalue => by simp [hvalue]
    | toClient => exact htable _ _ fun value hvalue => by simp [hvalue]

/-- A filter in which one coat is missing, beside one that is there. -/
def nullValues : Members :=
  [("filter", .object [("coats", .array [.null, .string "WHITE"])]), ("coat", .null)]

/-- A missing coat in a list and a missing value of a variable stay null, and functions that would
fail on null are not asked. -/
theorem null_not_converted_filter :
    plainRules.SameOffNull pickyRules ∧
      let document : Document := ⟨[.operation ⟨.query, none, filterDefinitions, []⟩]⟩
      let first : Bridge := ⟨filterSchema, plainRules⟩
      let second : Bridge := ⟨filterSchema, pickyRules⟩
      (first.serializeVariables document none nullValues).outcome = .ok nullValues ∧
        first.serializeVariables document none nullValues =
          second.serializeVariables document none nullValues := by
  have hsame := null_not_converted filterSchema plainRules pickyRules plainRules_sameOffNull
    ⟨[.operation ⟨.query, none, filterDefinitions, []⟩]⟩ none
  exact ⟨plainRules_sameOffNull, rfl, hsame.1 nullValues⟩

end EnumBridge
