import EnumBridge.Proofs.ResponseSite
import EnumBridge.Proofs.VariableSite
import EnumBridge.Relay.Request

/-!
# Which values a walk meets, and which rules it uses

A walk over variables or over the data of a response calls a conversion where it meets an enum
value.  What it meets may depend on what it did before: items and members behind a value that
cannot be converted are not met, and a member that is visited twice is met the second time as the
first visit left it.  So `VariablesMeet` and `DataMeets` follow the walk, and ask that everything
in front has been converted.

Two rulebooks that convert the values met alike cannot be told apart by the walk: this is shown
part by part, up to `serializeVariables_congr` and `parseData_congr`.  The main statement is
`rules_isolated`: only the rules of enums that are met matter, and rules under names that are not
enums of the schema are never used.
-/

set_option autoImplicit false

namespace EnumBridge

/-! ## Attempts that take the same course -/

namespace Attempt

variable {ε α β : Type}

/-- What follows an attempt counts only for the value with which it succeeds. -/
theorem bind_congr {x : Attempt ε α} {f g : α → Attempt ε β}
    (h : ∀ a, x.outcome = .ok a → f a = g a) : x >>= f = x >>= g := by
  have hcont : ExceptT.bindCont f x.run.value = ExceptT.bindCont g x.run.value := by
    unfold outcome at h
    cases hvalue : x.run.value with
    | error e => rfl
    | ok a => exact h a hvalue
  show (⟨x.run.events ++ (ExceptT.bindCont f x.run.value).events,
      (ExceptT.bindCont f x.run.value).value⟩ : Traced Note (Except ε β)) =
    ⟨x.run.events ++ (ExceptT.bindCont g x.run.value).events,
      (ExceptT.bindCont g x.run.value).value⟩
  rw [hcont]

/-- Attempts at the items of a list are the same if each is, as far as those in front succeed. -/
theorem mapM_congr {f g : α → Attempt ε β} {items : List α}
    (h : ∀ front item back, items = front ++ item :: back →
      (∀ other ∈ front, ∃ new, (f other).outcome = .ok new) → f item = g item) :
    items.mapM f = items.mapM g := by
  induction items with
  | nil => rfl
  | cons item rest ih =>
    have hitem : f item = g item := h [] item rest rfl (by simp)
    rw [List.mapM_cons, List.mapM_cons, ← hitem]
    refine bind_congr fun new hnew => ?_
    have hrest : rest.mapM f = rest.mapM g := by
      refine ih fun front other back hsplit hfront => ?_
      refine h (item :: front) other back (by rw [hsplit, List.cons_append]) ?_
      exact List.forall_mem_cons.mpr ⟨⟨new, hnew⟩, hfront⟩
    rw [hrest]

end Attempt

/-- A change of the value under one name counts only for the value that is found there. -/
theorem Members.modifyM_congr {ε : Type} {name : String} {f g : Json → Attempt ε Json}
    {members : Members} (h : ∀ held, members.lookup name = some held → f held = g held) :
    Members.modifyM name f members = Members.modifyM name g members := by
  induction members with
  | nil => rfl
  | cons member rest ih =>
    obtain ⟨key, held⟩ := member
    rw [Members.modifyM, Members.modifyM]
    split
    · next hkey =>
      subst hkey
      rw [h held List.lookup_cons_self]
    · next hkey =>
      rw [ih fun other hother => h other (by rw [Table.lookup_cons_of_ne (Ne.symm hkey), hother])]

/-- Two changes of the values at a named type are the same under list and non-null markers, if
they are the same wherever the walk under the markers comes to. -/
theorem TypeRef.descend_congr {ε : Type} {f g : String → Json → Attempt ε Json}
    (comes : TypeRef → Json → Prop)
    (hnamed : ∀ name value, comes (.named name) value → f name value = g name value)
    (hnonNull : ∀ type value, comes (.nonNull type) value → comes type value)
    (hitem : ∀ type front item back, comes (.list type) (.array (front ++ item :: back)) →
      (∀ other ∈ front, ∃ new, (type.descend f other).outcome = .ok new) → comes type item)
    {type : TypeRef} {value : Json} (h : comes type value) :
    type.descend f value = type.descend g value := by
  induction type generalizing value with
  | named name => exact hnamed name value h
  | nonNull type ih => exact ih (hnonNull type value h)
  | list type ih =>
    cases value with
    | array items =>
      have hitems : items.mapM (type.descend f) = items.mapM (type.descend g) := by
        refine Attempt.mapM_congr fun front item back hsplit hfront => ih ?_
        rw [hsplit] at h
        exact hitem type front item back h hfront
      rw [TypeRef.descend, TypeRef.descend, hitems]
    | _ => rfl

/-- The type of a shape, without non-null markers around it. -/
def TypeRef.Shape.type : TypeRef.Shape → TypeRef
  | .named name => .named name
  | .list item => .list item

/-- What holds of a value if it holds of the values inside it, holds of all values. -/
theorem Json.inside_induction {motive : Json → Prop}
    (leaf : ∀ value, value.array? = none → value.object? = none → motive value)
    (array : ∀ items : List Json, (∀ item ∈ items, motive item) → motive (.array items))
    (object : ∀ members : Members, (∀ member ∈ members, motive member.2) →
      motive (.object members)) :
    ∀ value, motive value
  | .array items => array items fun item _ => inside_induction leaf array object item
  | .object members => object members fun member _ =>
      inside_induction leaf array object member.2
  | .null => leaf .null rfl rfl
  | .bool value => leaf (.bool value) rfl rfl
  | .number value => leaf (.number value) rfl rfl
  | .string value => leaf (.string value) rfl rfl
termination_by value => sizeOf value
decreasing_by
  · have hlt := List.sizeOf_lt_of_mem ‹item ∈ items›
    simp only [Json.array.sizeOf_spec]
    omega
  · have hlt := List.sizeOf_lt_of_mem ‹member ∈ members›
    obtain ⟨key, held⟩ := member
    simp only [Json.object.sizeOf_spec, Prod.mk.sizeOf_spec] at hlt ⊢
    omega

namespace Bridge

/-! ## Values met in variables -/

/-- The walk over a value of that type, of a variable or of an input field, meets a value of an
enum. -/
inductive InputMeets (bridge : Bridge) : TypeRef → Json → String → Json → Prop
  | here {typeName enumName : String} {value : Json}
      (henum : bridge.schema.HasEnum typeName enumName) (hvalue : value.isNull = false) :
      InputMeets bridge (.named typeName) value enumName value
  | nonNull {type : TypeRef} {held value : Json} {enumName : String}
      (h : InputMeets bridge type held enumName value) :
      InputMeets bridge (.nonNull type) held enumName value
  | item {type : TypeRef} {front back : List Json} {item value : Json} {enumName : String}
      (hfront : ∀ other ∈ front, ∃ new, (bridge.inputValue type other).outcome = .ok new)
      (h : InputMeets bridge type item enumName value) :
      InputMeets bridge (.list type) (.array (front ++ item :: back)) enumName value
  | member {typeName key enumName : String} {type : TypeDef} {fields : FieldTable}
      {field : TypeRef} {front back : Members} {held value : Json}
      (hfind : bridge.schema.find? typeName = some type) (hbody : type.body = .inputObject fields)
      (hfront : ∀ other ∈ front, ∀ declared, fields.lookup other.1 = some declared →
        ∃ new, (bridge.inputValue declared other.2).outcome = .ok new)
      (hfield : fields.lookup key = some field)
      (h : InputMeets bridge field held enumName value) :
      InputMeets bridge (.named typeName) (.object (front ++ (key, held) :: back)) enumName value

/-- The walk over the variables that are defined, one definition after the other, meets a value
of an enum. -/
inductive DefinitionsMeet (bridge : Bridge) :
    List VariableDefinition → Members → String → Json → Prop
  | here {definition : VariableDefinition} {rest : List VariableDefinition} {values : Members}
      {held value : Json} {enumName : String} (hheld : values.lookup definition.name = some held)
      (h : InputMeets bridge (.ofExpr definition.type) held enumName value) :
      DefinitionsMeet bridge (definition :: rest) values enumName value
  | behind {definition : VariableDefinition} {rest : List VariableDefinition}
      {values next : Members} {value : Json} {enumName : String}
      (hnext : (Members.modifyM definition.name (bridge.variableValue definition.type)
        values).outcome = .ok next)
      (h : DefinitionsMeet bridge rest next enumName value) :
      DefinitionsMeet bridge (definition :: rest) values enumName value

/-- The variables of the operation of that name hold a value of an enum that is met when they are
serialized. -/
def VariablesMeet (bridge : Bridge) (document : Document) (operationName : Option String)
    (values : Members) (enumName : String) (value : Json) : Prop :=
  ∃ operation, document.operation? operationName = some operation ∧
    DefinitionsMeet bridge operation.variableDefinitions values enumName value

/-! ## Values met in a response -/

mutual

/-- The walk along some selected fields, one after the other, meets a value of an enum.  The
members are those of an object whose type has the given fields. -/
inductive FieldsMeet (bridge : Bridge) :
    FieldTable → List FieldNode → Members → String → Json → Prop
  | here {types : FieldTable} {node : FieldNode} {rest : List FieldNode} {object : Members}
      {type : TypeRef} {held value : Json} {enumName : String}
      (htype : types.lookup node.label.name = some type)
      (hheld : object.lookup node.label.responseKey = some held)
      (h : FieldMeets bridge node type held enumName value) :
      FieldsMeet bridge types (node :: rest) object enumName value
  | behind {types : FieldTable} {node : FieldNode} {rest : List FieldNode}
      {object next : Members} {value : Json} {enumName : String}
      (hnext : (bridge.parseField types node object).outcome = .ok next)
      (h : FieldsMeet bridge types rest next enumName value) :
      FieldsMeet bridge types (node :: rest) object enumName value

/-- The walk over the value of a selected field of that type meets a value of an enum. -/
inductive FieldMeets (bridge : Bridge) : FieldNode → TypeRef → Json → String → Json → Prop
  | here {node : FieldNode} {typeName enumName : String} {value : Json}
      (henum : bridge.schema.HasEnum typeName enumName) (hvalue : value.isNull = false) :
      FieldMeets bridge node (.named typeName) value enumName value
  | nonNull {node : FieldNode} {type : TypeRef} {held value : Json} {enumName : String}
      (h : FieldMeets bridge node type held enumName value) :
      FieldMeets bridge node (.nonNull type) held enumName value
  | item {node : FieldNode} {type : TypeRef} {front back : List Json} {item value : Json}
      {enumName : String}
      (hfront : ∀ other ∈ front,
        ∃ new, (type.descend (bridge.namedValue node) other).outcome = .ok new)
      (h : FieldMeets bridge node type item enumName value) :
      FieldMeets bridge node (.list type) (.array (front ++ item :: back)) enumName value
  | object {label : FieldLabel} {children : List FieldNode} {typeName enumName : String}
      {type : TypeDef} {object : Members} {fields : FieldTable} {value : Json}
      (hfind : bridge.schema.find? typeName = some type)
      (hfields : PayloadFields bridge.schema type object fields)
      (h : FieldsMeet bridge fields children object enumName value) :
      FieldMeets bridge (.branch label children) (.named typeName) (.object object) enumName value

end

/-- The data of a response to the operation of that name holds a value of an enum that is met
when it is parsed. -/
inductive DataMeets (bridge : Bridge) (document : Document) (operationName : Option String) :
    Json → String → Json → Prop
  | mk {operation : Operation} {root : TypeDef} {fields : FieldTable} {nodes : List FieldNode}
      {members : Members} {enumName : String} {value : Json}
      (hoperation : document.operation? operationName = some operation)
      (hroot : bridge.schema.root? operation.kind = some root)
      (hfields : root.objectFields? = some fields)
      (hnodes : (flatten document.fragmentTable operation.selections).outcome = .ok nodes)
      (h : FieldsMeet bridge fields nodes members enumName value) :
      DataMeets bridge document operationName (.object members) enumName value

section OnlyEnums

variable {bridge : Bridge} {enumName : String} {value : Json}

/-- What is met in a variable or an input field is a value of an enum of the schema. -/
theorem InputMeets.hasEnum {type : TypeRef} {held : Json}
    (h : InputMeets bridge type held enumName value) :
    ∃ typeName, bridge.schema.HasEnum typeName enumName := by
  induction h with
  | here henum _ => exact ⟨_, henum⟩
  | nonNull _ ih => exact ih
  | item _ _ ih => exact ih
  | member _ _ _ _ _ ih => exact ih

/-- What is met in the variables of an operation is a value of an enum of the schema. -/
theorem DefinitionsMeet.hasEnum {definitions : List VariableDefinition} {values : Members}
    (h : DefinitionsMeet bridge definitions values enumName value) :
    ∃ typeName, bridge.schema.HasEnum typeName enumName := by
  induction h with
  | here _ h => exact h.hasEnum
  | behind _ _ ih => exact ih

mutual

/-- What is met along selected fields is a value of an enum of the schema. -/
theorem FieldsMeet.hasEnum {types : FieldTable} {nodes : List FieldNode} {object : Members}
    {enumName : String} {value : Json} :
    FieldsMeet bridge types nodes object enumName value →
      ∃ typeName, bridge.schema.HasEnum typeName enumName
  | .here _ _ h => FieldMeets.hasEnum h
  | .behind _ h => FieldsMeet.hasEnum h

/-- What is met in the value of a selected field is a value of an enum of the schema. -/
theorem FieldMeets.hasEnum {node : FieldNode} {type : TypeRef} {held : Json}
    {enumName : String} {value : Json} :
    FieldMeets bridge node type held enumName value →
      ∃ typeName, bridge.schema.HasEnum typeName enumName
  | .here henum _ => ⟨_, henum⟩
  | .nonNull h => FieldMeets.hasEnum h
  | .item _ h => FieldMeets.hasEnum h
  | .object _ _ h => FieldsMeet.hasEnum h

end

/-- What is met in the data of a response is a value of an enum of the schema. -/
theorem DataMeets.hasEnum {document : Document} {operationName : Option String} {data : Json}
    (h : DataMeets bridge document operationName data enumName value) :
    ∃ typeName, bridge.schema.HasEnum typeName enumName := by
  cases h with
  | mk _ _ _ _ h => exact h.hasEnum

end OnlyEnums

end Bridge

/-! ## Two rulebooks over one schema -/

/-- Two rulebooks convert all values of some kind alike, in one direction. -/
def Rulebook.AlikeOn (rules others : Rulebook) (direction : Direction)
    (meets : String → Json → Prop) : Prop :=
  ∀ enumName value, meets enumName value →
    rules.convert enumName direction value = others.convert enumName direction value

namespace Bridge

section TwoRulebooks

variable {schema : Schema} {rules others : Rulebook}

/-- A value is converted alike by two rulebooks if it is null or if their rules convert it alike. -/
theorem convert_congr {enumName : String} {direction : Direction} {value : Json}
    (h : value.isNull = false →
      rules.convert enumName direction value = others.convert enumName direction value) :
    convert ⟨schema, rules⟩ enumName direction value =
      convert ⟨schema, others⟩ enumName direction value := by
  have hconvert : rules.convert enumName direction value =
      others.convert enumName direction value := by
    cases hnull : value.isNull with
    | false => exact h hnull
    | true =>
      unfold Rulebook.convert
      rw [if_pos hnull, if_pos hnull]
  unfold convert
  rw [hconvert]

/-- A value that is not walked any further, if the rulebooks convert it alike. -/
theorem inputLeaf_congr {typeName : String} {value : Json}
    (h : ∀ enumName, schema.HasEnum typeName enumName → value.isNull = false →
      rules.convert enumName .toServer value = others.convert enumName .toServer value) :
    inputLeaf ⟨schema, rules⟩ typeName value = inputLeaf ⟨schema, others⟩ typeName value := by
  unfold inputLeaf
  cases hfind : schema.find? typeName with
  | none => rfl
  | some type =>
    cases hkind : type.kind with
    | enum =>
      simp only [hkind]
      exact convert_congr fun hnull => h type.name ⟨type, hfind, hkind, rfl⟩ hnull
    | _ => simp only [hkind]

/-- A value in a response that is not walked any further, if the rulebooks convert it alike. -/
theorem outputLeaf_congr {typeName : String} {value : Json}
    (h : ∀ enumName, schema.HasEnum typeName enumName → value.isNull = false →
      rules.convert enumName .toClient value = others.convert enumName .toClient value) :
    outputLeaf ⟨schema, rules⟩ typeName value = outputLeaf ⟨schema, others⟩ typeName value := by
  unfold outputLeaf
  split
  · rfl
  · cases hfind : schema.find? typeName with
    | none => rfl
    | some type =>
      cases hkind : type.kind with
      | enum =>
        simp only [hkind]
        exact convert_congr fun hnull => h type.name ⟨type, hfind, hkind, rfl⟩ hnull
      | _ => simp only [hkind]

/-! ### Variables -/

/-- What is met in a value is met in it whatever non-null markers are put around its type. -/
theorem InputMeets.of_shape {bridge : Bridge} {enumName : String} {value held : Json}
    {type : TypeRef} (h : InputMeets bridge type.shape.type held enumName value) :
    InputMeets bridge type held enumName value := by
  induction type with
  | named name => exact h
  | list item _ => exact h
  | nonNull type ih => exact .nonNull (ih h)

/-- The members of an input object, if each is converted alike, as far as those in front are
converted. -/
theorem inputMembers_congr {fields : FieldTable} {members : Members}
    (h : ∀ front key held back, members = front ++ (key, held) :: back →
      (∀ other ∈ front, ∀ declared, fields.lookup other.1 = some declared →
        ∃ new, (inputValue ⟨schema, rules⟩ declared other.2).outcome = .ok new) →
      ∀ field, fields.lookup key = some field →
        inputValue ⟨schema, rules⟩ field held = inputValue ⟨schema, others⟩ field held) :
    inputMembers ⟨schema, rules⟩ fields members = inputMembers ⟨schema, others⟩ fields members := by
  induction members with
  | nil => rw [inputMembers, inputMembers]
  | cons member rest ih =>
    obtain ⟨key, held⟩ := member
    have hheld := h [] key held rest rfl (by simp)
    have hbehind (hdone : ∀ declared, fields.lookup key = some declared →
        ∃ new, (inputValue ⟨schema, rules⟩ declared held).outcome = .ok new) :
        inputMembers ⟨schema, rules⟩ fields rest = inputMembers ⟨schema, others⟩ fields rest := by
      refine ih fun front other value back hsplit hfront => ?_
      refine h ((key, held) :: front) other value back (by rw [hsplit, List.cons_append]) ?_
      exact List.forall_mem_cons.mpr ⟨hdone, hfront⟩
    rw [inputMembers, inputMembers]
    cases hfield : fields.lookup key with
    | none =>
      rw [hbehind (by simp [hfield])]
    | some field =>
      simp only [← hheld field hfield]
      refine Attempt.bind_congr fun new hnew => ?_
      rw [hbehind]
      intro declared hdeclared
      rw [hfield, Option.some.injEq] at hdeclared
      exact ⟨new, hdeclared ▸ hnew⟩

/-- A value that is not walked any further, if the rulebooks convert alike what is met in it under
its type. -/
theorem inputLeaf_congr_of_shape {type : TypeRef} {held : Json} {name : String}
    (hshape : type.shape = .named name)
    (h : rules.AlikeOn others .toServer (InputMeets ⟨schema, rules⟩ type held)) :
    inputLeaf ⟨schema, rules⟩ name held = inputLeaf ⟨schema, others⟩ name held := by
  refine inputLeaf_congr fun enumName henum hnull => h enumName held (.of_shape ?_)
  rw [hshape]
  exact .here henum hnull

/-- An input object, if values met in its members are converted alike there. -/
theorem inputMembers_congr_of_inside {typeName : String} {fields : FieldTable} {members : Members}
    (hfields : inputFields? ⟨schema, rules⟩ typeName = some fields)
    (hinside : ∀ member ∈ members, ∀ field : TypeRef,
      rules.AlikeOn others .toServer (InputMeets ⟨schema, rules⟩ field member.2) →
      inputValue ⟨schema, rules⟩ field member.2 = inputValue ⟨schema, others⟩ field member.2)
    (h : rules.AlikeOn others .toServer
      (InputMeets ⟨schema, rules⟩ (.named typeName) (.object members))) :
    inputMembers ⟨schema, rules⟩ fields members = inputMembers ⟨schema, others⟩ fields members := by
  obtain ⟨type, hfind, hbody⟩ := (inputFields?_eq_some _).mp hfields
  refine inputMembers_congr fun front key held back hsplit hfront field hfield => ?_
  refine hinside (key, held) (by simp [hsplit]) field fun enumName value hmeets => ?_
  refine h enumName value ?_
  rw [hsplit]
  exact .member hfind hbody hfront hfield hmeets

/-- A value of an input field, if the rulebooks convert what is met in it alike. -/
theorem inputValue_congr {type : TypeRef} {held : Json}
    (h : rules.AlikeOn others .toServer (InputMeets ⟨schema, rules⟩ type held)) :
    inputValue ⟨schema, rules⟩ type held = inputValue ⟨schema, others⟩ type held := by
  induction held using Json.inside_induction generalizing type with
  | leaf held harray hobject =>
    cases held with
    | null => rw [inputValue, inputValue]
    | array items => cases harray
    | object members => cases hobject
    | _ =>
      simp only [inputValue]
      cases hshape : type.shape with
      | named name => exact inputLeaf_congr_of_shape hshape h
      | list item => rfl
  | array items ih =>
    rw [inputValue, inputValue]
    cases hshape : type.shape with
    | named name => exact inputLeaf_congr_of_shape hshape h
    | list itemType =>
      simp only [inputItems_eq_mapM]
      refine congrArg _ (Attempt.mapM_congr fun front item back hsplit hfront => ?_)
      refine ih item (by simp [hsplit]) fun enumName value hmeets => h enumName value ?_
      rw [hsplit]
      exact .of_shape (by rw [hshape]; exact .item hfront hmeets)
  | object members ih =>
    rw [inputValue, inputValue]
    cases hshape : type.shape with
    | list itemType => rfl
    | named name =>
      have hsame : inputFields? ⟨schema, others⟩ name = inputFields? ⟨schema, rules⟩ name := rfl
      simp only [hsame]
      cases hfields : inputFields? ⟨schema, rules⟩ name with
      | none => exact inputLeaf_congr_of_shape hshape h
      | some fields =>
        have hmembers : inputMembers ⟨schema, rules⟩ fields members =
            inputMembers ⟨schema, others⟩ fields members :=
          inputMembers_congr_of_inside hfields (fun member hmember field => ih member hmember)
          fun enumName value hmeets => h enumName value (.of_shape (by rw [hshape]; exact hmeets))
        simp only [hmembers]

/-- A variable at a named type, if the rulebooks convert what is met in it alike. -/
theorem variableLeaf_congr {typeName : String} {held : Json}
    (h : rules.AlikeOn others .toServer (InputMeets ⟨schema, rules⟩ (.named typeName) held)) :
    variableLeaf ⟨schema, rules⟩ typeName held = variableLeaf ⟨schema, others⟩ typeName held := by
  have hleaf : inputLeaf ⟨schema, rules⟩ typeName held = inputLeaf ⟨schema, others⟩ typeName held :=
    inputLeaf_congr_of_shape rfl h
  cases held with
  | object members =>
    unfold variableLeaf
    have hsame : inputFields? ⟨schema, others⟩ typeName = inputFields? ⟨schema, rules⟩ typeName :=
      rfl
    simp only [hsame]
    cases hfields : inputFields? ⟨schema, rules⟩ typeName with
    | none => exact hleaf
    | some fields =>
      have hmembers : inputMembers ⟨schema, rules⟩ fields members =
          inputMembers ⟨schema, others⟩ fields members :=
        inputMembers_congr_of_inside hfields (fun member _ field => inputValue_congr) h
      simp only [hmembers]
  | _ => exact hleaf

/-- A variable, if the rulebooks convert what is met in it alike. -/
theorem variableValue_congr {type : Syntax.TypeExpr} {held : Json}
    (h : rules.AlikeOn others .toServer (InputMeets ⟨schema, rules⟩ (.ofExpr type) held)) :
    variableValue ⟨schema, rules⟩ type held = variableValue ⟨schema, others⟩ type held := by
  rw [variableValue_eq_descend, variableValue_eq_descend]
  refine TypeRef.descend_congr
    (fun type held => rules.AlikeOn others .toServer (InputMeets ⟨schema, rules⟩ type held))
    (fun name value => variableLeaf_congr)
    (fun type value hcomes enumName met hmeets => hcomes enumName met (.nonNull hmeets)) ?_ h
  intro type front item back hcomes hfront enumName met hmeets
  refine hcomes enumName met (.item (fun other hother => ?_) hmeets)
  rw [outcome_inputValue_eq_descend]
  exact hfront other hother

/-- The variables of an operation, if the rulebooks convert what is met in them alike. -/
theorem variableValues_congr {definitions : List VariableDefinition} {values : Members}
    (h : rules.AlikeOn others .toServer (DefinitionsMeet ⟨schema, rules⟩ definitions values)) :
    variableValues ⟨schema, rules⟩ definitions values =
      variableValues ⟨schema, others⟩ definitions values := by
  induction definitions generalizing values with
  | nil => rw [variableValues, variableValues, List.foldlM_nil, List.foldlM_nil]
  | cons definition rest ih =>
    have hvariable : Members.modifyM definition.name
          (variableValue ⟨schema, rules⟩ definition.type) values =
        Members.modifyM definition.name
          (variableValue ⟨schema, others⟩ definition.type) values :=
      Members.modifyM_congr fun held hheld => variableValue_congr fun enumName value hmeets =>
        h enumName value (.here hheld hmeets)
    rw [variableValues_cons, variableValues_cons, ← hvariable]
    -- Behind a success of the first variable both walks go on with the same values.
    exact Attempt.bind_congr fun next hnext => ih fun enumName value hmeets =>
      h enumName value (.behind hnext hmeets)

/-- **Variables under two rulebooks.**  If both convert the values met alike, both come to the
same result. -/
theorem serializeVariables_congr {document : Document} {operationName : Option String}
    {values : Members}
    (h : rules.AlikeOn others .toServer
      (VariablesMeet ⟨schema, rules⟩ document operationName values)) :
    serializeVariables ⟨schema, rules⟩ document operationName values =
      serializeVariables ⟨schema, others⟩ document operationName values := by
  unfold serializeVariables
  cases hoperation : document.operation? operationName with
  | none => rfl
  | some operation =>
    exact variableValues_congr fun enumName value hmeets =>
      h enumName value ⟨operation, hoperation, hmeets⟩

/-! ### Responses -/

mutual

/-- A value at a named type under a selected field, if the rulebooks convert what is met in it
alike. -/
theorem namedValue_congr (node : FieldNode) {typeName : String} {held : Json}
    (h : rules.AlikeOn others .toClient (FieldMeets ⟨schema, rules⟩ node (.named typeName) held)) :
    namedValue ⟨schema, rules⟩ node typeName held =
      namedValue ⟨schema, others⟩ node typeName held := by
  have hleaf : outputLeaf ⟨schema, rules⟩ typeName held =
      outputLeaf ⟨schema, others⟩ typeName held :=
    outputLeaf_congr fun enumName henum hnull => h enumName held (.here henum hnull)
  cases node with
  | leaf label => exact hleaf
  | branch label children =>
    cases held with
    | object inner =>
      have hsame : composite? ⟨schema, others⟩ typeName = composite? ⟨schema, rules⟩ typeName := rfl
      simp only [namedValue, hsame]
      cases hcomposite : composite? ⟨schema, rules⟩ typeName with
      | none => exact hleaf
      | some composite =>
        have hfind := ((composite?_eq_some _).mp hcomposite).1
        obtain ⟨result, hresult, hiff⟩ := payloadFields?_spec ⟨schema, rules⟩ composite inner
        refine Attempt.bind_congr fun found hfound => ?_
        rw [hresult, Except.ok.injEq] at hfound
        subst hfound
        cases result with
        | none => rfl
        | some fields =>
          have hfields : PayloadFields schema composite inner fields := (hiff fields).mp rfl
          have hbelow : parseFields ⟨schema, rules⟩ fields children inner =
              parseFields ⟨schema, others⟩ fields children inner :=
            parseFields_congr children fun enumName value hmeets =>
              h enumName value (.object hfind hfields hmeets)
          simp only [hbelow]
    | _ => exact hleaf

/-- The selected fields of an object, if the rulebooks convert what is met in them alike. -/
theorem parseFields_congr (nodes : List FieldNode) {types : FieldTable} {object : Members}
    (h : rules.AlikeOn others .toClient (FieldsMeet ⟨schema, rules⟩ types nodes object)) :
    parseFields ⟨schema, rules⟩ types nodes object =
      parseFields ⟨schema, others⟩ types nodes object := by
  cases nodes with
  | nil => rw [parseFields, parseFields]
  | cons node rest =>
    have hfield : parseField ⟨schema, rules⟩ types node object =
        parseField ⟨schema, others⟩ types node object := by
      rw [parseField_eq, parseField_eq]
      cases htype : types.lookup node.label.name with
      | none => rfl
      | some type =>
        refine Members.modifyM_congr fun held hheld => ?_
        refine TypeRef.descend_congr (fun type held =>
          rules.AlikeOn others .toClient (FieldMeets ⟨schema, rules⟩ node type held))
          (fun name value => namedValue_congr node)
          (fun type value hcomes enumName met hmeets => hcomes enumName met (.nonNull hmeets)) ?_
          fun enumName value hmeets => h enumName value (.here htype hheld hmeets)
        intro type front item back hcomes hfront enumName met hmeets
        exact hcomes enumName met (.item hfront hmeets)
    rw [parseFields, parseFields, ← hfield]
    exact Attempt.bind_congr fun next hnext => parseFields_congr rest fun enumName value hmeets =>
      h enumName value (.behind hnext hmeets)

end

/-- **Data under two rulebooks.**  If both convert the values met alike, both come to the same
result. -/
theorem parseData_congr {document : Document} {operationName : Option String} {data : Json}
    (h : rules.AlikeOn others .toClient (DataMeets ⟨schema, rules⟩ document operationName data)) :
    parseData ⟨schema, rules⟩ document operationName data =
      parseData ⟨schema, others⟩ document operationName data := by
  unfold parseData
  split
  · rfl
  · cases hoperation : document.operation? operationName with
    | none => rfl
    | some operation =>
      show parseOperationData ⟨schema, rules⟩ document operation data =
        parseOperationData ⟨schema, others⟩ document operation data
      unfold parseOperationData
      cases hroot : schema.root? operation.kind with
      | none => rfl
      | some root =>
        cases hfields : root.objectFields? with
        | none => simp only [Option.bind_some, hfields]
        | some fields =>
          simp only [Option.bind_some, hfields]
          cases data with
          | object members =>
            refine Attempt.bind_congr fun nodes hnodes => ?_
            have hflatten := Attempt.outcome_mapError_eq_ok.mp hnodes
            rw [parseFields_congr nodes fun enumName value hmeets =>
              h enumName value (.mk hoperation hroot hfields hflatten hmeets)]
          | _ => rfl

/-- A response, if the rulebooks convert what is met in its data alike. -/
theorem parseResponse_congr {request : Request} {response : Response}
    (h : ∀ data, response.data = some data → rules.AlikeOn others .toClient
      (DataMeets ⟨schema, rules⟩ request.document request.operationName data)) :
    parseResponse ⟨schema, rules⟩ request response =
      parseResponse ⟨schema, others⟩ request response := by
  unfold parseResponse
  cases hdata : response.data with
  | none => rfl
  | some data =>
    have hparsed := parseData_congr (h data hdata)
    simp only [hparsed]

end TwoRulebooks

end Bridge

/-! ## Rules that are not used -/

namespace Rulebook

/-- Two rulebooks say the same about an enum: the same functions, the same value table, and in
each direction the same naming style. -/
structure SameFor (rules others : Rulebook) (enumName : String) : Prop where
  functions : ∀ direction,
    (rules.functions direction).lookup enumName = (others.functions direction).lookup enumName
  valueTables : rules.valueTables.lookup enumName = others.valueTables.lookup enumName
  styles : ∀ direction,
    rules.styles.target? enumName direction = others.styles.target? enumName direction

/-- Rulebooks that say the same about an enum convert its values alike, in both directions. -/
theorem SameFor.convert_eq {rules others : Rulebook} {enumName : String}
    (h : rules.SameFor others enumName) (direction : Direction) (value : Json) :
    rules.convert enumName direction value = others.convert enumName direction value := by
  have hrule : rules.rule enumName direction = others.rule enumName direction := by
    unfold rule function? table? style?
    rw [h.functions, h.valueTables, h.styles]
  unfold convert
  rw [hrule]

/-- The rulebook without the rules under names that are not kept.  Styles for all enums stay. -/
def restrict (keep : String → Bool) (rules : Rulebook) : Rulebook where
  toServer := rules.toServer.filter fun entry => keep entry.1
  toClient := rules.toClient.filter fun entry => keep entry.1
  valueTables := rules.valueTables.filter fun entry => keep entry.1
  styles :=
    { rules.styles with
      clientEnums := rules.styles.clientEnums.filter fun entry => keep entry.1
      serverEnums := rules.styles.serverEnums.filter fun entry => keep entry.1 }

/-- Under a name that is kept the same entry is found. -/
theorem lookup_filter {α : Type} {keep : String → Bool} {name : String}
    (hkeep : keep name = true) (table : Table α) :
    (table.filter fun entry => keep entry.1).lookup name = table.lookup name := by
  induction table with
  | nil => rfl
  | cons entry rest ih =>
    obtain ⟨key, held⟩ := entry
    by_cases hname : name = key
    · subst hname
      rw [List.filter_cons, if_pos hkeep, List.lookup_cons_self, List.lookup_cons_self]
    · have hb : (name == key) = false := by simpa using hname
      rw [List.filter_cons, List.lookup_cons, hb]
      split
      · rw [List.lookup_cons, hb, ih]
      · exact ih

/-- Without rules under other names a rulebook says the same about an enum that is kept. -/
theorem sameFor_restrict {keep : String → Bool} {enumName : String}
    (hkeep : keep enumName = true) (rules : Rulebook) :
    rules.SameFor (rules.restrict keep) enumName where
  functions direction := by
    cases direction <;> exact (lookup_filter hkeep _).symm
  valueTables := (lookup_filter hkeep _).symm
  styles direction := by
    unfold StyleSheet.target?
    cases direction <;> exact congrArg (· <|> _) (lookup_filter hkeep _).symm

end Rulebook

/-- **Only the rules of enums that are met matter.**  Let two rulebooks say the same about every
enum of some set.  Then bridges that use them treat variables, data and responses alike, notes
included, as long as the first meets values of these enums only.  And a bridge is the same without
its rules under any names that are not enums of the schema. -/
theorem rules_isolated (schema : Schema) (rules others : Rulebook) (inSet : String → Prop)
    (hsame : ∀ name, inSet name → rules.SameFor others name) :
    let first : Bridge := ⟨schema, rules⟩
    let second : Bridge := ⟨schema, others⟩
    (∀ document operationName values,
      (∀ name value, first.VariablesMeet document operationName values name value → inSet name) →
      first.serializeVariables document operationName values =
        second.serializeVariables document operationName values) ∧
    (∀ document operationName data,
      (∀ name value, first.DataMeets document operationName data name value → inSet name) →
      first.parseData document operationName data =
        second.parseData document operationName data) ∧
    (∀ (request : Request) (response : Response),
      (∀ data, response.data = some data → ∀ name value,
        first.DataMeets request.document request.operationName data name value → inSet name) →
      first.parseResponse request response = second.parseResponse request response) ∧
    ∀ keep : String → Bool,
      (∀ typeName enumName, schema.HasEnum typeName enumName → keep enumName = true) →
      let restricted : Bridge := ⟨schema, rules.restrict keep⟩
      (∀ document operationName values,
        first.serializeVariables document operationName values =
          restricted.serializeVariables document operationName values) ∧
      (∀ document operationName data,
        first.parseData document operationName data =
          restricted.parseData document operationName data) ∧
      ∀ request response,
        first.parseResponse request response = restricted.parseResponse request response := by
  intro first second
  refine ⟨fun document operationName values hmeets => ?_,
    fun document operationName data hmeets => ?_, fun request response hmeets => ?_,
    fun keep hkeep => ?_⟩
  · exact Bridge.serializeVariables_congr fun name value hmet =>
      (hsame name (hmeets name value hmet)).convert_eq .toServer value
  · exact Bridge.parseData_congr fun name value hmet =>
      (hsame name (hmeets name value hmet)).convert_eq .toClient value
  · exact Bridge.parseResponse_congr fun data hdata name value hmet =>
      (hsame name (hmeets data hdata name value hmet)).convert_eq .toClient value
  have hkept (name : String) (direction : Direction) (value : Json)
      (henum : ∃ typeName, schema.HasEnum typeName name) :
      rules.convert name direction value = (rules.restrict keep).convert name direction value := by
    obtain ⟨typeName, henum⟩ := henum
    exact (rules.sameFor_restrict (hkeep typeName name henum)).convert_eq direction value
  refine ⟨fun document operationName values => ?_, fun document operationName data => ?_,
    fun request response => ?_⟩
  · refine Bridge.serializeVariables_congr fun name value hmet => ?_
    obtain ⟨operation, -, hmet⟩ := hmet
    exact hkept name .toServer value hmet.hasEnum
  · exact Bridge.parseData_congr fun name value hmet =>
      hkept name .toClient value hmet.hasEnum
  · exact Bridge.parseResponse_congr fun data _ name value hmet =>
      hkept name .toClient value hmet.hasEnum

/-- The rules of `petBridge`, given in another way, and functions for types that are no enums. -/
def petRules : Rulebook :=
  .ofSettings
    [.function .toClient "Dog" fun _ => .error (.message "not an enum"),
      .config ⟨[("Colour", .ofList [("Black as night", .string "BLACK")])], .empty⟩,
      .function .toServer "Size" fun value => .ok (.array [value])]

/-- Both rulebooks say the same about colours. -/
theorem petRules_sameFor : petBridge.rules.SameFor petRules "Colour" where
  functions direction := by cases direction <;> rfl
  valueTables := rfl
  styles direction := by cases direction <;> rfl

/-- The only enum of `petSchema` is that of colours. -/
theorem petSchema_hasEnum {typeName enumName : String} (h : petSchema.HasEnum typeName enumName) :
    enumName = "Colour" := by
  obtain ⟨type, hfind, hkind, rfl⟩ := h
  have hnames : (Table.names petSchema.types).Nodup := by decide
  have hmem := (Table.lookup_eq_some_iff hnames).mp hfind
  simp only [petSchema, List.mem_cons, List.not_mem_nil, or_false, Prod.mk.injEq] at hmem
  rcases hmem with ⟨-, rfl⟩ | ⟨-, rfl⟩ | ⟨-, rfl⟩ | ⟨-, rfl⟩ | ⟨-, rfl⟩
  all_goals first
    | rfl
    | cases hkind

/-- Only colours are met in the data of pets, so rules given in another way, and rules under the
names of other types, make no difference. -/
theorem rules_isolated_pets :
    (∀ name, name = "Colour" → petBridge.rules.SameFor petRules name) ∧
      (∀ name value, petBridge.DataMeets ⟨[.operation petOperation]⟩ none (.object petData)
        name value → name = "Colour") ∧
      petBridge.parseData ⟨[.operation petOperation]⟩ none (.object petData) =
        Bridge.parseData ⟨petSchema, petRules⟩ ⟨[.operation petOperation]⟩ none
          (.object petData) := by
  have hsame (name : String) (hname : name = "Colour") :
      petBridge.rules.SameFor petRules name := by
    subst hname
    exact petRules_sameFor
  have hmeets (name : String) (value : Json) (h : petBridge.DataMeets
      ⟨[.operation petOperation]⟩ none (.object petData) name value) : name = "Colour" := by
    obtain ⟨typeName, henum⟩ := h.hasEnum
    exact petSchema_hasEnum henum
  have hisolated := rules_isolated petSchema petBridge.rules petRules (· = "Colour") hsame
  exact ⟨hsame, hmeets, hisolated.2.1 _ none (.object petData) hmeets⟩

end EnumBridge
