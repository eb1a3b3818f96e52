import EnumBridge.Bridge.Variables
import EnumBridge.Proofs.CanonicalJson
import EnumBridge.Proofs.EnumSite

/-!
# Where enum values stand in variables

`VariableSite` says at which sites of the variables of an operation enum values stand: the
way leads from a variable that is declared and has a value through list and non-null markers,
and from an input object on to those of its fields that are there.  `VariableOrder` is the
order of the definitions, and inside one variable that of indices and names.

The main statement is `variableValues_converts_sites`: variables come back with exactly the
enum values at these sites converted, in this order.  The walk over a variable goes by the
type that the document writes and that over an input field by its value; `outcome_inputValue`
says that both come to the same, so that one description serves both.
-/

set_option autoImplicit false

namespace EnumBridge

/-- A site of an enum value in a value for a variable or an input field, given its type. -/
inductive InputSite (schema : Schema) : TypeRef → Json → EnumSite → Prop
  | nonNull {type : TypeRef} {value : Json} {site : EnumSite}
      (h : InputSite schema type value site) : InputSite schema (.nonNull type) value site
  | item {type : TypeRef} {items : List Json} {index : Nat} {item : Json} {site : EnumSite}
      (hitem : items[index]? = some item) (h : InputSite schema type item site) :
      InputSite schema (.list type) (.array items) (site.under (.item index))
  | enum {typeName enumName : String} {value : Json} (henum : schema.HasEnum typeName enumName)
      (hvalue : value.isNull = false) :
      InputSite schema (.named typeName) value ⟨[], enumName, value⟩
  | member {name key : String} {type : TypeDef} {fields : FieldTable} {members : Members}
      {field : TypeRef} {held : Json} {site : EnumSite}
      (hfind : schema.find? name = some type) (hbody : type.body = .inputObject fields)
      (hfield : fields.lookup key = some field) (hheld : members.lookup key = some held)
      (h : InputSite schema field held site) :
      InputSite schema (.named name) (.object members) (site.under (.member key))

/-- A site of an enum value in the variables of an operation. -/
inductive VariableSite (schema : Schema) (definitions : List VariableDefinition)
    (values : Members) : EnumSite → Prop
  | mk {definition : VariableDefinition} {held : Json} {site : EnumSite}
      (hdefinition : definition ∈ definitions)
      (hheld : values.lookup definition.name = some held)
      (h : InputSite schema (.ofExpr definition.type) held site) :
      VariableSite schema definitions values (site.under (.member definition.name))

/-- The order of paths into one variable: items by their index, members by their name. -/
inductive InputOrder : Path → Path → Prop
  | items {i j : Nat} {p q : Path} (h : i < j) : InputOrder (.item i :: p) (.item j :: q)
  | members {name other : String} {p q : Path} (h : name < other) :
      InputOrder (.member name :: p) (.member other :: q)
  | same {step : Step} {p q : Path} (h : InputOrder p q) : InputOrder (step :: p) (step :: q)

/-- The order of paths into the variables of an operation: that of their definitions. -/
inductive VariableOrder (definitions : List VariableDefinition) : Path → Path → Prop
  | between {first second : VariableDefinition} {p q : Path}
      (h : [first, second].Sublist definitions) :
      VariableOrder definitions (.member first.name :: p) (.member second.name :: q)
  | inside {definition : VariableDefinition} {p q : Path}
      (hdefinition : definition ∈ definitions) (h : InputOrder p q) :
      VariableOrder definitions (.member definition.name :: p) (.member definition.name :: q)

/-- Items of an array come in the order of their indices. -/
theorem inputOrder_itemOrder : Bridge.ItemOrder InputOrder :=
  ⟨fun _ _ _ _ h => .items h, fun _ _ _ h => .same h⟩

/-- The order of paths into one variable does not go both ways. -/
theorem InputOrder.asymm {p q : Path} (h : InputOrder p q) : ¬ InputOrder q p := by
  induction h with
  | items hlt =>
    intro h'
    cases h' with
    | items hgt => omega
    | same _ => omega
  | members hlt =>
    intro h'
    cases h' with
    | members hgt => exact String.lt_asymm hlt hgt
    | same _ => exact String.lt_irrefl _ hlt
  | same _ ih =>
    intro h'
    cases h' with
    | items hlt => omega
    | members hlt => exact String.lt_irrefl _ hlt
    | same h' => exact ih h'

/-- If definitions have different names, the order of variables does not go both ways. -/
theorem VariableOrder.asymm {definitions : List VariableDefinition}
    (hnames : (definitions.map VariableDefinition.name).Nodup) (p q : Path)
    (h : VariableOrder definitions p q) : ¬ VariableOrder definitions q p := by
  have horder {p q : Path} (h : VariableOrder definitions p q) :
      NameOrder (definitions.map VariableDefinition.name) (fun _ => InputOrder) p q := by
    cases h with
    | between h => exact .names (h.map VariableDefinition.name)
    | inside _ h => exact .below h
  intro h'
  exact NameOrder.asymm hnames (fun _ _ _ h => h.asymm) (horder h) (horder h')

/-- A non-null marker makes no difference to the sites of a value. -/
theorem inputSite_nonNull {schema : Schema} {type : TypeRef} {value : Json} {site : EnumSite} :
    InputSite schema (.nonNull type) value site ↔ InputSite schema type value site := by
  refine ⟨fun h => ?_, .nonNull⟩
  cases h with
  | nonNull h => exact h

/-- A site of an array under a list type is one inside an item, under the type of items. -/
theorem inputSite_list {schema : Schema} {type : TypeRef} {items : List Json}
    {site : EnumSite} :
    InputSite schema (.list type) (.array items) site ↔
      Bridge.ItemSite (InputSite schema type) 0 items site := by
  constructor
  · intro h
    cases h with
    | @item _ _ index item inner hitem hinner =>
      rw [← Nat.zero_add index]
      exact .mk hitem hinner
  · intro h
    cases h with
    | @mk index item inner hitem hinner =>
      rw [Nat.zero_add]
      exact .item hitem hinner

/-- The sites of a value at a named type that is not walked: the value itself. -/
theorem inputSite_named_iff {schema : Schema} {name : String} {value : Json}
    (hobject : ∀ type fields members, schema.find? name = some type →
      type.body = .inputObject fields → value ≠ .object members) (site : EnumSite) :
    InputSite schema (.named name) value site ↔ EnumSite.LeafSite schema name value site := by
  constructor
  · intro h
    cases h with
    | enum henum hvalue => exact .mk henum hvalue
    | member hfind hbody _ _ _ => exact absurd rfl (hobject _ _ _ hfind hbody)
  · rintro ⟨henum, hvalue⟩
    exact .enum henum hvalue

namespace Bridge

open EnumSite

variable (bridge : Bridge)

/-! ## The two walks -/

/-- Null stays null, whatever the rule of its enum. -/
theorem outcome_convert_null (enumName : String) (direction : Direction) :
    (bridge.convert enumName direction .null).outcome = .ok .null := by
  rw [convert, Attempt.outcome_ofExcept]
  rfl

/-- The fields of an input object are those that the schema has under its name. -/
theorem inputFields?_eq_some {name : String} {fields : FieldTable} :
    bridge.inputFields? name = some fields ↔
      ∃ type, bridge.schema.find? name = some type ∧ type.body = .inputObject fields := by
  unfold inputFields?
  cases hfind : bridge.schema.find? name with
  | none => simp
  | some type => cases hbody : type.body <;> simp [hbody]

/-- A value under the name of an enum is converted by the name that the enum itself has. -/
theorem outcome_inputLeaf_of_hasEnum {name enumName : String} (value : Json)
    (henum : bridge.schema.HasEnum name enumName) :
    (bridge.inputLeaf name value).outcome =
      (bridge.convert enumName .toServer value).outcome := by
  obtain ⟨type, hfind, hkind, rfl⟩ := henum
  simp [inputLeaf, hfind, hkind]

/-- Null stays as it is, and so does a value under a name that is not that of an enum. -/
theorem outcome_inputLeaf_of_not {name : String} {value : Json}
    (h : ¬ (bridge.schema.IsEnum name ∧ value.isNull = false)) :
    (bridge.inputLeaf name value).outcome = .ok value := by
  unfold inputLeaf
  cases hfind : bridge.schema.find? name with
  | none => simp [reportUnknownType, Except.map]
  | some type =>
    cases hkind : type.kind with
    | enum =>
      have hnull : value = .null := by
        cases value with
        | null => rfl
        | _ => exact absurd ⟨⟨type, hfind, hkind⟩, rfl⟩ h
      simp only [hkind, hnull, outcome_convert_null]
    | _ => simp [hkind, Except.map]

/-- Null stays null, whatever stands under the name. -/
theorem outcome_inputLeaf_null (name : String) :
    (bridge.inputLeaf name .null).outcome = .ok .null :=
  outcome_inputLeaf_of_not bridge fun h => nomatch h.2

/-- The items of a list are converted one after the other. -/
theorem inputItems_eq_mapM (type : TypeRef) (items : List Json) :
    bridge.inputItems type items = items.mapM (bridge.inputValue type) := by
  induction items with
  | nil => rw [inputItems]; rfl
  | cons item rest ih => rw [inputItems, List.mapM_cons, ih]

/-- The walk along a type in a document is the walk along the type that it stands for. -/
theorem variableValue_eq_descend (type : Syntax.TypeExpr) (value : Json) :
    bridge.variableValue type value =
      (TypeRef.ofExpr type).descend bridge.variableLeaf value := by
  induction type generalizing value with
  | named name => rfl
  | nonNull type ih =>
    rw [variableValue, ih]
    rfl
  | list item ih =>
    have hitem : bridge.variableValue item =
        (TypeRef.ofExpr item).descend bridge.variableLeaf := funext ih
    cases value with
    | array items =>
      rw [variableValue, hitem]
      rfl
    | _ => rfl

/-- What becomes of a value of an input field is what the walk over variables makes of it. -/
theorem outcome_inputValue_eq_descend (type : TypeRef) (value : Json) :
    (bridge.inputValue type value).outcome =
      (type.descend bridge.variableLeaf value).outcome := by
  induction type generalizing value with
  | named name =>
    show _ = (bridge.variableLeaf name value).outcome
    cases value with
    | null =>
      rw [inputValue]
      exact (outcome_inputLeaf_null bridge name).symm
    | object members =>
      rw [inputValue]
      simp only [TypeRef.shape, variableLeaf]
      cases bridge.inputFields? name <;> rfl
    | _ => simp only [inputValue, TypeRef.shape, variableLeaf]
  | nonNull type ih =>
    rw [TypeRef.descend, ← ih]
    cases value <;> simp only [inputValue, TypeRef.shape]
  | list type ih =>
    cases value with
    | array items =>
      rw [inputValue]
      simp only [TypeRef.shape, TypeRef.descend, Attempt.outcome_map, inputItems_eq_mapM,
        Attempt.outcome_mapM, ih]
    | _ => simp only [inputValue, TypeRef.shape, TypeRef.descend]

/-- **The two walks agree.**  What becomes of a value of an input field is what becomes of a
variable of the type that the field is declared with. -/
theorem outcome_inputValue (type : Syntax.TypeExpr) (value : Json) :
    (bridge.inputValue (.ofExpr type) value).outcome =
      (bridge.variableValue type value).outcome := by
  rw [variableValue_eq_descend, outcome_inputValue_eq_descend]

/-! ## The members of an input object -/

/-- A site below one of the members of an input object that are declared. -/
inductive MemberSite (schema : Schema) (fields : FieldTable) (members : Members) :
    EnumSite → Prop
  | mk {key : String} {field : TypeRef} {held : Json} {inner : EnumSite}
      (hmember : (key, held) ∈ members) (hfield : fields.lookup key = some field)
      (hinner : InputSite schema field held inner) :
      MemberSite schema fields members (inner.under (.member key))

/-- A site in some members is one in the first of them, if it is declared, or in the others. -/
theorem memberSite_cons {schema : Schema} {fields : FieldTable} {key : String} {held : Json}
    {rest : Members} {site : EnumSite} :
    MemberSite schema fields ((key, held) :: rest) site ↔
      (∃ field, fields.lookup key = some field ∧
        ∃ inner, InputSite schema field held inner ∧ site = inner.under (.member key)) ∨
      MemberSite schema fields rest site := by
  constructor
  · rintro ⟨hmember, hfield, hinner⟩
    rcases List.mem_cons.mp hmember with heq | hmember
    · cases heq
      exact Or.inl ⟨_, hfield, _, hinner, rfl⟩
    · exact Or.inr (.mk hmember hfield hinner)
  · rintro (⟨field, hfield, inner, hinner, rfl⟩ | ⟨hmember, hfield, hinner⟩)
    · exact .mk List.mem_cons_self hfield hinner
    · exact .mk (List.mem_cons_of_mem _ hmember) hfield hinner

/-- Members of an input object converted one after the other, behind members of other names
that are done.  The sites do not depend on what has become of those. -/
theorem converts_inputMembers_behind (fields : FieldTable) (members : Members)
    (hnames : (members.map Prod.fst).Pairwise (· < ·))
    (h : ∀ member ∈ members, ∀ field, fields.lookup member.1 = some field →
      bridge.Converts .toServer (InputSite bridge.schema field member.2) InputOrder member.2
        (bridge.inputValue field member.2).outcome) :
    ∃ sites, Enumerates (MemberSite bridge.schema fields members) InputOrder sites ∧
      ∀ front : Members, (∀ name ∈ members.map Prod.fst, name ∉ front.map Prod.fst) →
        ((bridge.inputMembers fields members).outcome.map fun new =>
          Json.object (front ++ new)) =
            bridge.convertSites .toServer sites (.object (front ++ members)) := by
  induction members with
  | nil =>
    refine ⟨[], Enumerates.nil ?_, fun front _ => by rw [inputMembers]; rfl⟩
    rintro site ⟨hmember, -, -⟩
    simp at hmember
  | cons member rest ih =>
    obtain ⟨key, held⟩ := member
    rw [List.map_cons, List.pairwise_cons] at hnames
    obtain ⟨more, hmore, hrest⟩ :=
      ih hnames.2 fun other hother => h other (List.mem_cons_of_mem _ hother)
    -- Whatever the member at hand becomes, those behind it find other names in front of them.
    have hbehind (front : Members) (new : Json)
        (hfront : ∀ name ∈ ((key, held) :: rest).map Prod.fst, name ∉ front.map Prod.fst) :
        ((bridge.inputMembers fields rest).outcome.map fun news =>
          Json.object (front ++ (key, new) :: news)) =
            bridge.convertSites .toServer more (.object (front ++ (key, new) :: rest)) := by
      have hdone := hrest (front ++ [(key, new)]) fun name hname => by
        have hlt := hnames.1 name hname
        have hne : name ≠ key := fun heq => String.lt_irrefl _ (heq ▸ hlt)
        have hfree := hfront name (List.mem_cons_of_mem _ hname)
        simp only [List.map_append, List.map_cons, List.map_nil, List.mem_append,
          List.mem_singleton, not_or]
        exact ⟨hfree, hne⟩
      simpa using hdone
    cases hfield : fields.lookup key with
    | none =>
      refine ⟨more, hmore.congr (fun site => ?_) (fun p q hpq => hpq), fun front hfront => ?_⟩
      · rw [memberSite_cons, hfield]
        simp
      · rw [← hbehind front held hfront, inputMembers, hfield]
        simp only [Attempt.outcome_bind, Attempt.outcome_pure, Except.bind]
        cases (bridge.inputMembers fields rest).outcome <;> rfl
    | some field =>
      obtain ⟨sites, henum, hresult⟩ := h (key, held) List.mem_cons_self field hfield
      refine ⟨sites.map (EnumSite.under (.member key)) ++ more, ?_, fun front hfront => ?_⟩
      · refine ((henum.under (.member key) fun p q => .same).append hmore ?_).congr
          (fun site => ?_) (fun p q hpq => hpq)
        · rintro first second ⟨inner, -, rfl⟩ ⟨hother, -, -⟩
          exact .members (hnames.1 _ (List.mem_map_of_mem hother))
        · rw [memberSite_cons, hfield]
          simp
      · have hfree := hfront key List.mem_cons_self
        have hbelow : (Json.object (front ++ (key, held) :: rest)).below? (.member key) =
            some held := by
          rw [Json.below?, Members.lookup_append_of_notMem hfree, List.lookup_cons_self]
        rw [convertSites_append, convertSites_under hbelow, ← hresult, inputMembers, hfield]
        simp only [Attempt.outcome_bind]
        cases (bridge.inputValue field held).outcome with
        | error e => rfl
        | ok new =>
          have hreplace : (Json.object (front ++ (key, held) :: rest)).replace (.member key) new =
              .object (front ++ (key, new) :: rest) := by
            rw [Json.replace, Members.replace_append_of_notMem hfree, Members.replace, if_pos rfl]
          simp only [Except.map, Except.bind, hreplace, ← hbehind front new hfront]
          cases (bridge.inputMembers fields rest).outcome <;> rfl

/-- In an object whose members have different names, the sites of its members are those that
a look-up of their names leads to. -/
theorem memberSite_iff {schema : Schema} {fields : FieldTable} {name : String} {type : TypeDef}
    {members : Members} {site : EnumSite} (hfind : schema.find? name = some type)
    (hbody : type.body = .inputObject fields) (hnames : (members.map Prod.fst).Nodup) :
    MemberSite schema fields members site ↔
      InputSite schema (.named name) (.object members) site := by
  constructor
  · rintro ⟨hmember, hfield, hinner⟩
    exact .member hfind hbody hfield ((Table.lookup_eq_some_iff hnames).mpr hmember) hinner
  · intro h
    cases h with
    | enum henum _ =>
      have hkind := henum.kind_eq hfind
      rw [TypeDef.kind, hbody] at hkind
      cases hkind
    | member hother hbodies hfield hheld hinner =>
      rw [hfind, Option.some.injEq] at hother
      subst hother
      rw [hbody, TypeBody.inputObject.injEq] at hbodies
      subst hbodies
      exact .mk ((Table.lookup_eq_some_iff hnames).mp hheld) hfield hinner

/-! ## The walk -/

/-- A value that is not walked any further is converted if it is an enum value. -/
theorem converts_inputLeaf {name : String} {value : Json}
    (hsite : ∀ site, InputSite bridge.schema (.named name) value site ↔
      LeafSite bridge.schema name value site) :
    bridge.Converts .toServer (InputSite bridge.schema (.named name) value) InputOrder value
      (bridge.inputLeaf name value).outcome := by
  by_cases h : bridge.schema.IsEnum name ∧ value.isNull = false
  · obtain ⟨enumName, henum⟩ := Schema.exists_hasEnum_iff.mpr h.1
    rw [outcome_inputLeaf_of_hasEnum bridge value henum]
    exact converts_single _ fun site => (hsite site).trans (leafSite_iff henum h.2 site)
  · rw [outcome_inputLeaf_of_not bridge h]
    exact converts_none _ (fun site hs => not_leafSite h site ((hsite site).mp hs)) _

/-- List and non-null markers around the type of a value that is converted at every named
type, as the items in it are at every type. -/
theorem converts_inputValue_of_named {value : Json}
    (hitems : ∀ items, value = .array items → ∀ item ∈ items, ∀ type,
      bridge.Converts .toServer (InputSite bridge.schema type item) InputOrder item
        (bridge.inputValue type item).outcome)
    (hnamed : ∀ name, bridge.Converts .toServer (InputSite bridge.schema (.named name) value)
      InputOrder value (bridge.inputValue (.named name) value).outcome)
    (type : TypeRef) :
    bridge.Converts .toServer (InputSite bridge.schema type value) InputOrder value
      (bridge.inputValue type value).outcome := by
  induction type with
  | named name => exact hnamed name
  | nonNull type ih =>
    rw [outcome_inputValue_eq_descend] at ih ⊢
    exact ih.congr (fun site => inputSite_nonNull.symm) (fun p q hpq => hpq)
  | list type ih =>
    cases value with
    | array items =>
      have hall := converts_items inputOrder_itemOrder (bridge.inputValue type) items
        fun item hitem => hitems items rfl item hitem type
      rw [← inputItems_eq_mapM] at hall
      rw [inputValue]
      exact hall.congr (fun site => inputSite_list.symm) (fun p q hpq => hpq)
    | _ =>
      simp only [inputValue]
      exact converts_none _ (fun site h => nomatch h) _

/-- A value at a named type comes back with its sites converted, if it is no object. -/
theorem converts_inputValue_leaf {value : Json} (hobject : ∀ members, value ≠ .object members)
    (name : String) :
    bridge.Converts .toServer (InputSite bridge.schema (.named name) value) InputOrder value
      (bridge.inputValue (.named name) value).outcome := by
  have hsite (site : EnumSite) :
      InputSite bridge.schema (.named name) value site ↔ LeafSite bridge.schema name value site :=
    inputSite_named_iff (fun _ _ members _ _ => hobject members) site
  have hleaf := converts_inputLeaf bridge hsite
  rw [outcome_inputValue_eq_descend]
  cases value with
  | object members => exact absurd rfl (hobject members)
  | _ => exact hleaf

/-- The value of an input field comes back with its sites converted. -/
theorem converts_inputValue {value : Json} (hvalue : value.Canonical) (type : TypeRef) :
    bridge.Converts .toServer (InputSite bridge.schema type value) InputOrder value
      (bridge.inputValue type value).outcome := by
  induction hvalue generalizing type with
  | array _ ih =>
    refine converts_inputValue_of_named bridge ?_ (converts_inputValue_leaf bridge ?_) type
    · rintro _ ⟨⟩ item hitem
      exact ih item hitem
    · simp
  | @object members hnames _ ih =>
    refine converts_inputValue_of_named bridge ?_ (fun name => ?_) type
    · simp
    rw [inputValue]
    simp only [TypeRef.shape]
    cases hfields : bridge.inputFields? name with
    | none =>
      refine converts_inputLeaf bridge (inputSite_named_iff fun type fields others hfind hbody => ?_)
      rw [(inputFields?_eq_some bridge).mpr ⟨type, hfind, hbody⟩] at hfields
      cases hfields
    | some fields =>
      obtain ⟨type, hfind, hbody⟩ := (inputFields?_eq_some bridge).mp hfields
      obtain ⟨sites, hsites, hresult⟩ := converts_inputMembers_behind bridge fields members
        hnames fun member hmember field _ => ih member hmember field
      refine ⟨sites, hsites.congr (fun site => ?_) (fun p q hpq => hpq), ?_⟩
      · exact memberSite_iff hfind hbody (hnames.imp fun hlt => String.ne_of_lt hlt)
      · rw [Attempt.outcome_map]
        exact hresult [] fun name _ => by simp
  | _ =>
    refine converts_inputValue_of_named bridge ?_ (converts_inputValue_leaf bridge ?_) type
    · simp
    · simp

/-! ## The variables of an operation -/

/-- A site in the variables is one under the first definition or under the others. -/
theorem variableSite_cons {schema : Schema} {definition : VariableDefinition}
    {rest : List VariableDefinition} {values : Members} {site : EnumSite} :
    VariableSite schema (definition :: rest) values site ↔
      SlotSite (InputSite schema (.ofExpr definition.type)) values definition.name site ∨
        VariableSite schema rest values site := by
  constructor
  · rintro ⟨hdefinition, hheld, h⟩
    rcases List.mem_cons.mp hdefinition with rfl | hdefinition
    · exact Or.inl (.mk hheld h)
    · exact Or.inr (.mk hdefinition hheld h)
  · rintro (⟨hheld, h⟩ | ⟨hdefinition, hheld, h⟩)
    · exact .mk List.mem_cons_self hheld h
    · exact .mk (List.mem_cons_of_mem _ hdefinition) hheld h

/-- The order of some definitions is part of the order of more. -/
theorem variableOrder_cons {definition : VariableDefinition} {rest : List VariableDefinition}
    {p q : Path} (h : VariableOrder rest p q) : VariableOrder (definition :: rest) p q := by
  cases h with
  | between h => exact .between (h.cons definition)
  | inside hdefinition h => exact .inside (List.mem_cons_of_mem _ hdefinition) h

/-- The variable of the first definition is changed, and then those of the others. -/
theorem variableValues_cons (definition : VariableDefinition) (rest : List VariableDefinition)
    (values : Members) :
    bridge.variableValues (definition :: rest) values =
      Members.modifyM definition.name (bridge.variableValue definition.type) values
        >>= bridge.variableValues rest := by
  rw [variableValues, List.foldlM_cons]
  rfl

/-- One definition after the other changes the value of its variable. -/
theorem convertsSlots_variableValues (definitions : List VariableDefinition)
    (hnames : (definitions.map VariableDefinition.name).Nodup) {values : Members}
    (hvalues : (Json.object values).Canonical) :
    bridge.ConvertsSlots .toServer (VariableSite bridge.schema definitions values)
      (VariableOrder definitions) (definitions.map VariableDefinition.name) values
      (bridge.variableValues definitions) := by
  induction definitions with
  | nil =>
    refine ConvertsSlots.nil fun site hsite => ?_
    cases hsite with
    | mk hdefinition => simp at hdefinition
  | cons definition rest ih =>
    rw [List.map_cons, List.nodup_cons] at hnames
    have hstep : bridge.variableValues (definition :: rest) = fun members =>
        Members.modifyM definition.name (bridge.variableValue definition.type) members
          >>= bridge.variableValues rest :=
      funext fun members => variableValues_cons bridge definition rest members
    have hslot : ∀ held, values.lookup definition.name = some held →
        bridge.Converts .toServer (InputSite bridge.schema (.ofExpr definition.type) held)
          InputOrder held (bridge.variableValue definition.type held).outcome := by
      intro held hheld
      cases hvalues with
      | object hkeys hmembers =>
        have hmember := (Table.lookup_eq_some_iff
          (hkeys.imp fun hlt => String.ne_of_lt hlt)).mp hheld
        rw [← outcome_inputValue]
        exact converts_inputValue bridge (hmembers _ hmember) (.ofExpr definition.type)
    have horder (p q : Path) (hpq : VariableOrder rest p q) :
        VariableOrder (definition :: rest) p q := variableOrder_cons hpq
    have hrest := (ih hnames.2).congr (fun site => Iff.rfl) horder (fun name hname => hname)
    rw [hstep]
    refine (ConvertsSlots.cons hnames.1 hslot hrest ?_ ?_).congr
      (fun site => variableSite_cons.symm) (fun p q hpq => hpq) (fun name hname => hname)
    · exact fun p q hpq => .inside List.mem_cons_self hpq
    · rintro p second ⟨hother, -, -⟩
      exact .between (List.Sublist.cons_cons definition (List.singleton_sublist.mpr hother))

/-- **The variables of an operation.**  Let its definitions have different names, and let the
variables be canonical, as everything is that is read from a text
(`Json.canonical_of_ofText?`).  Then their sites stand in one order only: that of the
definitions, and inside a variable that of indices and names.  The variables come back with the
enum values at exactly these sites converted, or with the error of the first of them that cannot
be converted. -/
theorem variableValues_converts_sites (definitions : List VariableDefinition)
    {values : Members} (hnames : (definitions.map VariableDefinition.name).Nodup)
    (hvalues : (Json.object values).Canonical) :
    ∃ sites,
      (∀ others, Enumerates (VariableSite bridge.schema definitions values)
        (VariableOrder definitions) others ↔ others = sites) ∧
      (bridge.variableValues definitions values).outcome.map Json.object =
        bridge.convertSites .toServer sites (.object values) := by
  have hwalk := (convertsSlots_variableValues bridge definitions hnames hvalues).converts
  obtain ⟨sites, henum, hresult⟩ := hwalk
  rw [Attempt.outcome_map] at hresult
  exact ⟨sites, henum.eq_iff (VariableOrder.asymm hnames), hresult⟩

end Bridge

/-- Filters of pets, which are built from others. -/
def filterSchema : Schema where
  roots := ⟨some "Query", none, none⟩
  types :=
    [("Query", ⟨"Query", .object [] [("pets", .list (.named "String"))]⟩),
      ("Filter", ⟨"Filter", .inputObject
        [("coats", .list (.nonNull (.named "Colour"))), ("not", .named "Filter")]⟩),
      ("Colour", ⟨"Colour", .enum ["BLACK", "WHITE"]⟩)]

/-- A bridge for filters, to a client that writes colours in words. -/
def filterBridge : Bridge where
  schema := filterSchema
  rules := .ofSettings [.valueTable "Colour" (.ofList [("Black as night", .string "BLACK")])]

/-- The definitions `($filter: Filter!, $coat: Colour)`. -/
def filterDefinitions : List VariableDefinition :=
  [⟨"filter", .nonNull (.named "Filter")⟩, ⟨"coat", .named "Colour"⟩]

/-- A filter inside a filter, beside a name that no filter has. -/
def filterValues : Members :=
  [("filter", .object
    [("not", .object
      [("coats", .array [.string "Black as night", .string "WHITE"]),
        ("texts", .array [.string "Black as night"])])])]

/-- The members of the variables, and of the objects in them, stand in ascending order. -/
theorem filterValues_canonical : (Json.object filterValues).Canonical := by
  have htexts (texts : List String) : (Json.array (texts.map Json.string)).Canonical := by
    refine .array fun item hitem => ?_
    obtain ⟨text, -, rfl⟩ := List.mem_map.mp hitem
    exact .string text
  refine .object (by decide) ?_
  rw [filterValues, List.forall_mem_singleton]
  refine .object (by decide) ?_
  rw [List.forall_mem_singleton]
  refine .object (by decide) ?_
  rw [List.forall_mem_cons, List.forall_mem_singleton]
  exact ⟨htexts ["Black as night", "WHITE"], htexts ["Black as night"]⟩

/-- The variables with a filter have their enum values at one list of sites only, and these are
converted. -/
theorem variableValues_converts_sites_filter :
    (filterDefinitions.map VariableDefinition.name).Nodup ∧
      (Json.object filterValues).Canonical ∧
      ∃ sites,
        (∀ others, EnumSite.Enumerates
          (VariableSite filterSchema filterDefinitions filterValues)
          (VariableOrder filterDefinitions) others ↔ others = sites) ∧
        (filterBridge.variableValues filterDefinitions filterValues).outcome.map Json.object =
          filterBridge.convertSites .toServer sites (.object filterValues) :=
  ⟨by decide, filterValues_canonical,
    filterBridge.variableValues_converts_sites filterDefinitions (by decide)
      filterValues_canonical⟩

example :
    (filterBridge.variableValues filterDefinitions filterValues).outcome =
      .ok [("filter", .object
        [("not", .object
          [("coats", .array [.string "BLACK", .string "WHITE"]),
            ("texts", .array [.string "Black as night"])])])] := by
  rfl

end EnumBridge
