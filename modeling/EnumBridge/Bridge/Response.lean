import EnumBridge.Bridge
import EnumBridge.Text.Quoted

/-!
# Responses on their way to the client

`Bridge.parseData` converts the enum values in the data of a response.  It walks the data
along the field trees of the operation and the output types of the schema.  A field is
found in the data under its response key; below it, an object is walked along the fields
of its type.  Where the type is an interface or a union, the member `__typename` of the
object says which type that is, provided it names an object type that belongs there;
otherwise only the fields of the interface are known, and of a union none.

Fields that the schema does not declare stay as they are, and so do values that do not
have the shape of their type.
-/

set_option autoImplicit false

namespace EnumBridge.Bridge

/-- A value at a named type that is not walked any further. -/
def outputLeaf (bridge : Bridge) (typeName : String) (value : Json) : Attempt BridgeError Json :=
  if value.isNull then pure value
  else
    match bridge.schema.find? typeName with
    | none => do
      reportUnknownType typeName
      pure value
    | some type =>
      match type.kind with
      | .enum => bridge.convert type.name .toClient value
      | _ => pure value

/-- The fields of the object type that an object names as its own, if it is one of the
types that may stand here. -/
def namedFields? (bridge : Bridge) (belongs : TypeDef → List String → Bool) (object : Members) :
    Attempt BridgeError (Option FieldTable) :=
  match (List.lookup "__typename" object).bind Json.string? with
  | none => pure none
  | some name =>
    match bridge.schema.find? name with
    | none => pure none
    | some type =>
      match type.body with
      | .object interfaces fields =>
        if belongs type interfaces then pure (some fields)
        else do
          Attempt.debug
            ("`__typename` names `" ++ name ++ "`, which is not a possible type here.")
          pure none
      | _ => pure none

/-- Whether an object of this type has fields to walk. -/
def isComposite (type : TypeDef) : Bool :=
  match type.kind with
  | .object | .interface | .union => true
  | _ => false

/-- The fields that an object has where a composite type is declared. -/
def payloadFields? (bridge : Bridge) (type : TypeDef) (object : Members) :
    Attempt BridgeError (Option FieldTable) :=
  match type.body with
  | .object _ fields => pure (some fields)
  | .interface _ fields => do
    let named ← bridge.namedFields? (fun _ interfaces => interfaces.contains type.name) object
    pure (named <|> some fields)
  | .union members => bridge.namedFields? (fun named _ => members.contains named.name) object
  | _ => pure none

/-- The composite type of that name. -/
def composite? (bridge : Bridge) (typeName : String) : Option TypeDef :=
  (bridge.schema.find? typeName).filter isComposite

mutual

/-- The members of an object with the value under one field converted. -/
def parseField (bridge : Bridge) (types : FieldTable) :
    FieldNode → Members → Attempt BridgeError Members
  | .leaf label, object =>
    match types.lookup label.name with
    | none => pure object
    | some type => Members.modifyM label.responseKey (type.descend bridge.outputLeaf) object
  | .branch label children, object =>
    match types.lookup label.name with
    | none => pure object
    | some type =>
      Members.modifyM label.responseKey
        (type.descend fun typeName value =>
          match value, bridge.composite? typeName with
          | .object inner, some composite => do
            match ← bridge.payloadFields? composite inner with
            | some fields => .object <$> parseFields bridge fields children inner
            | none => pure (.object inner)
          | _, _ => bridge.outputLeaf typeName value)
        object

/-- The members of an object with the values under some fields converted, one field after
the other. -/
def parseFields (bridge : Bridge) (types : FieldTable) :
    List FieldNode → Members → Attempt BridgeError Members
  | [], object => pure object
  | node :: rest, object => do
    let object ← parseField bridge types node object
    parseFields bridge types rest object

end

/-- The data of an operation converted. -/
def parseOperationData (bridge : Bridge) (document : Document) (operation : Operation)
    (data : Json) : Attempt BridgeError Json :=
  match (bridge.schema.root? operation.kind).bind TypeDef.objectFields? with
  | none => do
    Attempt.debug
      ("Schema defines no " ++ operation.kind.name ++
        " root type; leaving response data untouched.")
    pure data
  | some fields =>
    match data with
    | .object members => do
      let nodes ←
        Attempt.mapError .flattening (flatten document.fragmentTable operation.selections)
      .object <$> bridge.parseFields fields nodes members
    | _ => pure data

/-- The data of a response to an operation of a document on its way to the client.
Without such an operation it stays as it is, and so does null. -/
def parseData (bridge : Bridge) (document : Document) (operationName : Option String)
    (data : Json) : Attempt BridgeError Json :=
  if data.isNull then pure data
  else
    match document.operation? operationName with
    | some operation => bridge.parseOperationData document operation data
    | none => do
      Attempt.debug
        ("No operation definition found for " ++ Text.quotedOption operationName ++
          "; leaving response data untouched.")
      pure data

end EnumBridge.Bridge
