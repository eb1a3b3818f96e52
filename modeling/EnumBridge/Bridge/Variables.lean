import EnumBridge.Bridge

/-!
# Variables on their way to the server

`Bridge.serializeVariables` converts the enum values in the variables of an operation.
It walks every provided variable along its declared type: through the items of lists,
and through the declared fields of input objects.  Values that do not have the shape of
their type stay as they are, and so do values of types that the schema does not define
or that cannot stand in variables, which is reported.

There are two walks.  `Bridge.inputValue` is for the fields of input objects, and
recurses over the value; `Bridge.variableValue` is for variables, and recurses over the
type as the document writes it, down to a named type.
-/

set_option autoImplicit false

namespace EnumBridge.Bridge

/-- A value at a named type, if that type is not an input object or the value not an
object. -/
def inputLeaf (bridge : Bridge) (typeName : String) (value : Json) : Attempt BridgeError Json :=
  match bridge.schema.find? typeName with
  | none => do
    reportUnknownType typeName
    pure value
  | some type =>
    match type.kind with
    | .enum => bridge.convert type.name .toServer value
    | .scalar | .inputObject => pure value
    | kind => do
      Attempt.debug
        ("Leaving value of non-input " ++ kind.name ++ " type `" ++ typeName ++ "` untouched.")
      pure value

/-- The fields of an input object type. -/
def inputFields? (bridge : Bridge) (typeName : String) : Option FieldTable :=
  match (bridge.schema.find? typeName).map TypeDef.body with
  | some (.inputObject fields) => some fields
  | _ => none

mutual

/-- A value of an input field, converted along the type of the field. -/
def inputValue (bridge : Bridge) (type : TypeRef) : Json → Attempt BridgeError Json
  | .null => pure .null
  | .array items =>
    match type.shape with
    | .list item => .array <$> inputItems bridge item items
    | .named name => bridge.inputLeaf name (.array items)
  | .object members =>
    match type.shape with
    | .list _ => pure (.object members)
    | .named name =>
      match bridge.inputFields? name with
      | some fields => .object <$> inputMembers bridge fields members
      | none => bridge.inputLeaf name (.object members)
  | value =>
    match type.shape with
    | .list _ => pure value
    | .named name => bridge.inputLeaf name value

/-- The items of a list, converted along their type. -/
def inputItems (bridge : Bridge) (type : TypeRef) : List Json → Attempt BridgeError (List Json)
  | [] => pure []
  | item :: rest => do
    let item ← inputValue bridge type item
    let rest ← inputItems bridge type rest
    pure (item :: rest)

/-- The members of an input object, those that are declared converted along the types of
their fields. -/
def inputMembers (bridge : Bridge) (fields : FieldTable) :
    List (String × Json) → Attempt BridgeError (List (String × Json))
  | [] => pure []
  | (name, value) :: rest => do
    let value ←
      match fields.lookup name with
      | some type => inputValue bridge type value
      | none => pure value
    let rest ← inputMembers bridge fields rest
    pure ((name, value) :: rest)

end

/-- A value at a named type of a variable. -/
def variableLeaf (bridge : Bridge) (typeName : String) (value : Json) : Attempt BridgeError Json :=
  match value, bridge.inputFields? typeName with
  | .object members, some fields => .object <$> bridge.inputMembers fields members
  | _, _ => bridge.inputLeaf typeName value

/-- The value of a variable, converted along the type of the variable.  A value under a list
marker that is not an array is left alone. -/
def variableValue (bridge : Bridge) : Syntax.TypeExpr → Json → Attempt BridgeError Json
  | .named name, value => bridge.variableLeaf name value
  | .nonNull type, value => variableValue bridge type value
  | .list item, .array items => .array <$> items.mapM (variableValue bridge item)
  | .list _, value => pure value

/-- Variables converted along their definitions, in the order of the definitions.  A
variable without a value stays without one. -/
def variableValues (bridge : Bridge) (definitions : List VariableDefinition)
    (values : Members) : Attempt BridgeError Members :=
  definitions.foldlM
    (fun values definition =>
      Members.modifyM definition.name (bridge.variableValue definition.type) values)
    values

/-- The variables of an operation of a document on their way to the server.  Without such
an operation they stay as they are. -/
def serializeVariables (bridge : Bridge) (document : Document) (operationName : Option String)
    (values : Members) : Attempt BridgeError Members :=
  match document.operation? operationName with
  | some operation => bridge.variableValues operation.variableDefinitions values
  | none => pure values

end EnumBridge.Bridge
