import EnumBridge.Bridge

/-!
# Responses

A `Response` is one result of an operation: data, errors and extensions.  As JSON it
leaves out what it does not have: absent data, an empty list of errors, empty
extensions.  Reading takes null for absent data, and accepts an array of the parts in
order instead of an object with members.
-/

set_option autoImplicit false

namespace EnumBridge

/-- An error as a response lists it. -/
structure ResponseError where
  message : String
  path : Option (List Json)
  extensions : Members
  deriving BEq

/-- One result of an operation. -/
structure Response where
  data : Option Json
  errors : List ResponseError
  extensions : Members
  deriving BEq

namespace ResponseError

/-- An error that has only a message. -/
def ofMessage (message : String) : ResponseError := ⟨message, none, []⟩

/-- The string under `code` in the extensions. -/
def code? (error : ResponseError) : Option String :=
  (List.lookup "code" error.extensions).bind Json.string?

/-- The error with a code in its extensions. -/
def withCode (error : ResponseError) (code : String) : ResponseError :=
  { error with extensions := Members.insert "code" (.string code) error.extensions }

/-- The error that tells a client why its data could not be converted. -/
def ofBridgeError (error : BridgeError) : ResponseError :=
  let named := (ofMessage error.text).withCode error.code
  match error.enumName? with
  | some name =>
    { named with extensions := Members.insert "enumName" (.string name) named.extensions }
  | none => named

/-- An error as JSON. -/
def toJson (error : ResponseError) : Json :=
  .object
    ((if error.extensions.isEmpty then [] else [("extensions", .object error.extensions)]) ++
      [("message", .string error.message)] ++
      (match error.path with
        | some path => [("path", .array path)]
        | none => []))

/-- The parts of an error: a message, a path and extensions, of which only the message
must be there. -/
def ofParts? (message path extensions : Option Json) : Option ResponseError := do
  let message ← message.bind Json.string?
  let path ← match path with
    | none | some .null => some none
    | some (.array path) => some (some path)
    | some _ => none
  let extensions ← (extensions.map Json.object?).getD (some [])
  pure ⟨message, path, extensions⟩

/-- The error that a JSON value stands for. -/
def ofJson? : Json → Option ResponseError
  | .object members =>
    ofParts? (members.lookup "message") (members.lookup "path") (members.lookup "extensions")
  | .array parts =>
    if parts.length ≤ 3 then ofParts? parts[0]? parts[1]? parts[2]? else none
  | _ => none

end ResponseError

namespace Response

/-- A response that has nothing. -/
def empty : Response := ⟨none, [], []⟩

/-- A response that has only data. -/
def ofData (data : Json) : Response := ⟨some data, [], []⟩

/-- The response with one more error. -/
def withError (response : Response) (error : ResponseError) : Response :=
  { response with errors := response.errors ++ [error] }

/-- A response as JSON. -/
def toJson (response : Response) : Json :=
  .object
    ((match response.data with
        | some data => [("data", data)]
        | none => []) ++
      (if response.errors.isEmpty then []
        else [("errors", .array (response.errors.map ResponseError.toJson))]) ++
      (if response.extensions.isEmpty then []
        else [("extensions", .object response.extensions)]))

/-- The parts of a response.  Null stands for absent data, and for nothing else. -/
def ofParts? (data errors extensions : Option Json) : Option Response := do
  let data := match data with
    | some .null => none
    | data => data
  let errors ← match errors with
    | none => some []
    | some (.array errors) => errors.mapM ResponseError.ofJson?
    | some _ => none
  let extensions ← (extensions.map Json.object?).getD (some [])
  pure ⟨data, errors, extensions⟩

/-- The response that a JSON value stands for.  An array must list the data at least. -/
def ofJson? : Json → Option Response
  | .object members =>
    ofParts? (members.lookup "data") (members.lookup "errors") (members.lookup "extensions")
  | .array parts =>
    if 1 ≤ parts.length ∧ parts.length ≤ 3 then ofParts? parts[0]? parts[1]? parts[2]? else none
  | _ => none

end Response

end EnumBridge
