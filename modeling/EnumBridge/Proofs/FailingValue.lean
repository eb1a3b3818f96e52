import EnumBridge.Proofs.MetValue

/-!
# What makes parsing fail

Parsing the data of a response fails for one of two reasons.  The rule of an enum may fail at a
value that the walk meets; then this is the failure, with the enum named unless the rule named one
itself.  Or the fragments of the operation cannot be resolved, and the walk does not begin.

`Rulebook.FailsOn` says the first of the values met, and `Bridge.FragmentsFail` the second of an
operation.  Both directions follow `FieldsMeet` and `FieldMeets`: a failure of the walk comes from a
value that is met, as far as everything in front has been converted (`failsOn_of_parseFields`), and
a value that is met and cannot be converted stops the walk (`FieldsMeet.parseFields_eq_error`).
They come together in `parseData_eq_error_iff`.
-/

set_option autoImplicit false

namespace EnumBridge

/-! ## Attempts that fail -/

namespace Attempt

variable {ε α β : Type}

/-- A list of attempts fails at the first item that does, if those in front succeed. -/
theorem outcome_mapM_eq_error {f : α → Attempt ε β} {items : List α} {e : ε} :
    (items.mapM f).outcome = .error e ↔ ∃ front item back, items = front ++ item :: back ∧
      (∀ other ∈ front, ∃ new, (f other).outcome = .ok new) ∧ (f item).outcome = .error e := by
  induction items with
  | nil =>
    constructor
    · exact nofun
    · rintro ⟨front, item, back, hsplit, -⟩
      cases front <;> cases hsplit
  | cons first rest ih =>
    rw [List.mapM_cons, outcome_bind_eq_error]
    constructor
    · rintro (hfirst | ⟨new, hnew, hrest⟩)
      · exact ⟨[], first, rest, rfl, List.forall_mem_nil _, hfirst⟩
      · rcases outcome_bind_eq_error.mp hrest with hrest | ⟨others, -, hpure⟩
        · obtain ⟨front, item, back, hsplit, hfront, hitem⟩ := ih.mp hrest
          refine ⟨first :: front, item, back, by rw [hsplit, List.cons_append], ?_, hitem⟩
          exact List.forall_mem_cons.mpr ⟨⟨new, hnew⟩, hfront⟩
        · cases hpure
    · rintro ⟨front, item, back, hsplit, hfront, hitem⟩
      cases front with
      | nil =>
        cases hsplit
        exact Or.inl hitem
      | cons other front =>
        cases hsplit
        obtain ⟨⟨new, hnew⟩, hothers⟩ := List.forall_mem_cons.mp hfront
        refine Or.inr ⟨new, hnew, outcome_bind_eq_error.mpr (Or.inl ?_)⟩
        exact ih.mpr ⟨front, item, back, rfl, hothers, hitem⟩

end Attempt

/-- A change of the value under one name fails if there is such a value and it cannot be changed. -/
theorem Members.outcome_modifyM_eq_error {ε : Type} {name : String} {f : Json → Attempt ε Json}
    {members : Members} {e : ε} :
    (Members.modifyM name f members).outcome = .error e ↔
      ∃ held, members.lookup name = some held ∧ (f held).outcome = .error e := by
  rw [Members.outcome_modifyM]
  cases members.lookup name with
  | none => simp
  | some held => cases hheld : (f held).outcome <;> simp [hheld, Except.map]

/-! ## Rules that fail -/

/-- The rule of an enum fails at one of the values that are met, and this is the failure of the
bridge: what the rule gave, with the enum named unless it named one. -/
def Rulebook.FailsOn (rules : Rulebook) (direction : Direction) (meets : String → Json → Prop)
    (error : BridgeError) : Prop :=
  ∃ enumName value source, meets enumName value ∧
    (rules.rule enumName direction).apply value = .error source ∧
    error = .conversion (source.inEnumNamed enumName)

/-- A rule that fails at a value met here fails at a value met in a larger whole. -/
theorem Rulebook.FailsOn.mono {rules : Rulebook} {direction : Direction}
    {meets wider : String → Json → Prop} {error : BridgeError}
    (h : rules.FailsOn direction meets error)
    (hsub : ∀ enumName value, meets enumName value → wider enumName value) :
    rules.FailsOn direction wider error := by
  obtain ⟨enumName, value, source, hmeets, hfails, herror⟩ := h
  exact ⟨enumName, value, source, hsub enumName value hmeets, hfails, herror⟩

namespace Bridge

variable {bridge : Bridge}

/-- A value that is not null is converted by the rule of its enum, and fails if that fails. -/
theorem outcome_convert_eq_error {enumName : String} {direction : Direction} {value : Json}
    {error : BridgeError} (hvalue : value.isNull = false) :
    (bridge.convert enumName direction value).outcome = .error error ↔
      ∃ source, (bridge.rules.rule enumName direction).apply value = .error source ∧
        error = .conversion (source.inEnumNamed enumName) := by
  unfold convert Rulebook.convert
  rw [Attempt.outcome_ofExcept, if_neg (ne_true_of_eq_false hvalue)]
  cases (bridge.rules.rule enumName direction).apply value <;> simp [Except.mapError, eq_comm]

/-- A value at the name of a composite type is walked along the fields that it has. -/
theorem outcome_namedValue_branch {label : FieldLabel} {children : List FieldNode}
    {typeName : String} {type : TypeDef} {object : Members} {fields : FieldTable}
    (hfind : bridge.schema.find? typeName = some type)
    (hfields : PayloadFields bridge.schema type object fields) :
    (bridge.namedValue (.branch label children) typeName (.object object)).outcome =
      (Json.object <$> bridge.parseFields fields children object).outcome := by
  have hcomposite : bridge.composite? typeName = some type :=
    (composite?_eq_some bridge).mpr ⟨hfind, hfields.isComposite⟩
  obtain ⟨result, hresult, hiff⟩ := payloadFields?_spec bridge type object
  have hsome : result = some fields := (hiff fields).mpr hfields
  simp only [namedValue, hcomposite]
  rw [Attempt.outcome_bind, hresult, hsome]
  rfl

/-! ## A failure comes from a value that is met -/

/-- If a value at a named type without fields below cannot be parsed, the rule of its enum failed at
it. -/
theorem failsOn_of_outputLeaf {node : FieldNode} {typeName : String} {value : Json}
    {error : BridgeError} (h : (bridge.outputLeaf typeName value).outcome = .error error) :
    bridge.rules.FailsOn .toClient (FieldMeets bridge node (.named typeName) value) error := by
  by_cases hboth : bridge.schema.IsEnum typeName ∧ value.isNull = false
  · obtain ⟨enumName, henum⟩ := Schema.exists_hasEnum_iff.mpr hboth.1
    rw [outcome_outputLeaf_of_hasEnum bridge henum hboth.2] at h
    obtain ⟨source, hsource, herror⟩ := (outcome_convert_eq_error hboth.2).mp h
    exact ⟨enumName, value, source, .here henum hboth.2, hsource, herror⟩
  · rw [outcome_outputLeaf_of_not bridge hboth] at h
    cases h

/-- If failures at named types come from values that are met, so do failures under list and non-null
markers. -/
theorem failsOn_of_descend {node : FieldNode} {error : BridgeError}
    (hnamed : ∀ name value, (bridge.namedValue node name value).outcome = .error error →
      bridge.rules.FailsOn .toClient (FieldMeets bridge node (.named name) value) error)
    {type : TypeRef} {value : Json}
    (h : (type.descend (bridge.namedValue node) value).outcome = .error error) :
    bridge.rules.FailsOn .toClient (FieldMeets bridge node type value) error := by
  induction type generalizing value with
  | named name => exact hnamed name value h
  | nonNull type ih => exact (ih h).mono fun enumName met => .nonNull
  | list type ih =>
    cases value with
    | array items =>
      have hitems := Attempt.outcome_map_eq_error.mp h
      obtain ⟨front, item, back, rfl, hfront, hitem⟩ := Attempt.outcome_mapM_eq_error.mp hitems
      exact (ih hitem).mono fun enumName met => .item hfront
    | _ => cases h

mutual

/-- If a value at a named type cannot be parsed, the rule of an enum failed at a value met in it. -/
theorem failsOn_of_namedValue (node : FieldNode) {typeName : String} {value : Json}
    {error : BridgeError} (h : (bridge.namedValue node typeName value).outcome = .error error) :
    bridge.rules.FailsOn .toClient (FieldMeets bridge node (.named typeName) value) error := by
  cases node with
  | leaf label => exact failsOn_of_outputLeaf h
  | branch label children =>
    cases value with
    | object inner =>
      cases hcomposite : bridge.composite? typeName with
      | none =>
        simp only [namedValue, hcomposite] at h
        exact failsOn_of_outputLeaf h
      | some composite =>
        have hfind := ((composite?_eq_some bridge).mp hcomposite).1
        obtain ⟨result, hresult, hiff⟩ := payloadFields?_spec bridge composite inner
        simp only [namedValue, hcomposite] at h
        rw [Attempt.outcome_bind, hresult] at h
        cases result with
        | none => cases h
        | some fields =>
          have hfields := (hiff fields).mp rfl
          have hbelow := failsOn_of_parseFields children (Attempt.outcome_map_eq_error.mp h)
          exact hbelow.mono fun enumName met => .object hfind hfields
    | _ => exact failsOn_of_outputLeaf h

/-- If an object cannot be parsed, the rule of an enum failed at a value met in its fields, as far
as the fields in front have been converted. -/
theorem failsOn_of_parseFields (nodes : List FieldNode) {types : FieldTable} {object : Members}
    {error : BridgeError} (h : (bridge.parseFields types nodes object).outcome = .error error) :
    bridge.rules.FailsOn .toClient (FieldsMeet bridge types nodes object) error := by
  cases nodes with
  | nil =>
    rw [parseFields] at h
    cases h
  | cons node rest =>
    rw [parseFields] at h
    rcases Attempt.outcome_bind_eq_error.mp h with hnode | ⟨next, hnext, hrest⟩
    · rw [parseField_eq] at hnode
      cases htype : types.lookup node.label.name with
      | none =>
        rw [htype] at hnode
        cases hnode
      | some type =>
        simp only [htype] at hnode
        obtain ⟨held, hheld, hvalue⟩ := Members.outcome_modifyM_eq_error.mp hnode
        have hmet := failsOn_of_descend (fun name value => failsOn_of_namedValue node) hvalue
        exact hmet.mono fun enumName met => .here htype hheld
    · exact (failsOn_of_parseFields rest hrest).mono fun enumName met => .behind hnext

end

/-! ## A value that is met stops the walk -/

section Stops

variable {source : ValueError}

mutual

/-- If a value is met in an object and the rule of its enum fails there, the object cannot be
parsed, for that reason. -/
theorem FieldsMeet.parseFields_eq_error {types : FieldTable} {nodes : List FieldNode}
    {object : Members} {enumName : String} {value : Json}
    (hfails : (bridge.rules.rule enumName .toClient).apply value = .error source) :
    FieldsMeet bridge types nodes object enumName value →
      (bridge.parseFields types nodes object).outcome =
        .error (.conversion (source.inEnumNamed enumName))
  | .here htype hheld h => by
    rw [parseFields, Attempt.outcome_bind_eq_error]
    refine Or.inl ?_
    simp only [parseField_eq, htype]
    exact Members.outcome_modifyM_eq_error.mpr ⟨_, hheld, FieldMeets.descend_eq_error hfails h⟩
  | .behind hnext h => by
    rw [parseFields, Attempt.outcome_bind_eq_error]
    exact Or.inr ⟨_, hnext, FieldsMeet.parseFields_eq_error hfails h⟩

/-- If a value is met in the value of a field and the rule of its enum fails there, the value of the
field cannot be parsed, for that reason. -/
theorem FieldMeets.descend_eq_error {node : FieldNode} {type : TypeRef} {held : Json}
    {enumName : String} {value : Json}
    (hfails : (bridge.rules.rule enumName .toClient).apply value = .error source) :
    FieldMeets bridge node type held enumName value →
      (type.descend (bridge.namedValue node) held).outcome =
        .error (.conversion (source.inEnumNamed enumName))
  | .here henum hvalue => by
    rw [TypeRef.descend, namedValue_of_hasEnum bridge henum,
      outcome_outputLeaf_of_hasEnum bridge henum hvalue]
    exact (outcome_convert_eq_error hvalue).mpr ⟨source, hfails, rfl⟩
  | .nonNull h => by
    rw [TypeRef.descend]
    exact FieldMeets.descend_eq_error hfails h
  | .item hfront h => by
    rw [TypeRef.descend, Attempt.outcome_map_eq_error]
    exact Attempt.outcome_mapM_eq_error.mpr
      ⟨_, _, _, rfl, hfront, FieldMeets.descend_eq_error hfails h⟩
  | .object hfind hfields h => by
    rw [TypeRef.descend, outcome_namedValue_branch hfind hfields, Attempt.outcome_map_eq_error]
    exact FieldsMeet.parseFields_eq_error hfails h

end

end Stops

/-! ## Data -/

/-- The fragments of the operation by which data would be parsed cannot be resolved. -/
inductive FragmentsFail (bridge : Bridge) (document : Document) (operationName : Option String) :
    Json → FlattenError → Prop
  | mk {operation : Operation} {root : TypeDef} {fields : FieldTable} {members : Members}
      {cause : FlattenError} (hoperation : document.operation? operationName = some operation)
      (hroot : bridge.schema.root? operation.kind = some root)
      (hfields : root.objectFields? = some fields)
      (h : (flatten document.fragmentTable operation.selections).outcome = .error cause) :
      FragmentsFail bridge document operationName (.object members) cause

section Data

variable {document : Document} {operationName : Option String}

/-- **Parsing data fails for one of two reasons**: the rule of an enum fails at a value that is met,
or the fragments of the operation cannot be resolved. -/
theorem parseData_eq_error_iff {data : Json} {error : BridgeError} :
    (bridge.parseData document operationName data).outcome = .error error ↔
      bridge.rules.FailsOn .toClient (DataMeets bridge document operationName data) error ∨
        ∃ cause, FragmentsFail bridge document operationName data cause ∧
          error = .flattening cause := by
  constructor
  · intro h
    rcases parseData_eq_ok_or bridge document operationName data with
      hsame | ⟨operation, root, fields, members, hoperation, hroot, hfields, rfl⟩
    · rw [hsame] at h
      cases h
    · rw [parseData_eq bridge hoperation hroot hfields, Attempt.outcome_bind_eq_error] at h
      rcases h with hflatten | ⟨nodes, hnodes, hwalk⟩
      · obtain ⟨cause, hcause, rfl⟩ := Attempt.outcome_mapError_eq_error.mp hflatten
        exact Or.inr ⟨cause, .mk hoperation hroot hfields hcause, rfl⟩
      · have hflatten := Attempt.outcome_mapError_eq_ok.mp hnodes
        have hmet := failsOn_of_parseFields nodes (Attempt.outcome_map_eq_error.mp hwalk)
        exact Or.inl (hmet.mono fun enumName value => .mk hoperation hroot hfields hflatten)
  · rintro (⟨enumName, value, source, hmeets, hfails, rfl⟩ | ⟨cause, hfragments, rfl⟩)
    · cases hmeets with
      | mk hoperation hroot hfields hnodes h =>
        rw [parseData_eq bridge hoperation hroot hfields, Attempt.outcome_bind_eq_error]
        refine Or.inr ⟨_, Attempt.outcome_mapError_eq_ok.mpr hnodes, ?_⟩
        exact Attempt.outcome_map_eq_error.mpr (h.parseFields_eq_error hfails)
    · cases hfragments with
      | mk hoperation hroot hfields h =>
        rw [parseData_eq bridge hoperation hroot hfields, Attempt.outcome_bind_eq_error]
        exact Or.inl (Attempt.outcome_mapError_eq_error.mpr ⟨cause, h, rfl⟩)

end Data

end Bridge

end EnumBridge
