import EnumBridge.Schema.Definition
import EnumBridge.Syntax.Grammar

/-!
# Reading type system documents

`TypeSystem.ofText?` reads the definitions of a text.  It fails on a text that does not
follow the grammar and on one without definitions.

A definition or a field may have a description in front.  The position of a field is
that of its description; the position of a type is that of its keyword.
-/

set_option autoImplicit false

namespace EnumBridge.TypeSystem

open Syntax Reader

/-- A description, if there is one. -/
def description : Reader Unit := do
  if ← nextIs (· == .string) then expect .string

/-- Whether something that may have a description can begin with a lexeme. -/
def startsDescribed : Lexeme → Bool
  | .name _ | .string => true
  | _ => false

/-- Something in braces, at least once, if there are braces. -/
def braces {α : Type} (p : Reader α) : Reader (List α) := do
  if ← optionalMark '\x7b' then
    let all ← many1 startsDescribed p
    mark '\x7d'
    pure all
  else pure []

/-- An input field or an argument. -/
def inputFieldReader : Reader FieldDefinition := do
  let start ← Reader.position
  description
  let name ← name
  mark ':'
  let type ← anyType
  if ← optionalMark '=' then constant
  discard directives
  pure ⟨name, start, type⟩

/-- A field with its arguments, which are not kept. -/
def fieldReader : Reader FieldDefinition := do
  let start ← Reader.position
  description
  let name ← name
  if ← optionalMark '(' then
    discard (many1 startsDescribed inputFieldReader)
    mark ')'
  mark ':'
  let type ← anyType
  discard directives
  pure ⟨name, start, type⟩

/-- An enum value. -/
def enumValueReader : Reader String := do
  description
  let name ← name
  discard directives
  pure name

/-- The interfaces that a type implements. -/
def implementsReader : Reader (List String) := do
  if ← keywordIsNext "implements" then
    keyword "implements"
    discard (optionalMark '&')
    separated '&' name
  else pure []

/-- The members of a union. -/
def membersReader : Reader (List String) := do
  if ← optionalMark '=' then
    discard (optionalMark '|')
    separated '|' name
  else pure []

/-- What follows the keyword of a type: its name and what it consists of, together with
whether anything is listed that an extension may be made of. -/
def bodyReader? (word : String) :
    Option (Reader (String × TypeBody (List FieldDefinition) × Bool)) :=
  if word = "scalar" then some do
    let name ← name
    let count ← directives
    pure (name, .scalar, count != 0)
  else if word = "enum" then some do
    let name ← name
    let count ← directives
    let values ← braces enumValueReader
    pure (name, .enum values, count != 0 || !values.isEmpty)
  else if word = "input" then some do
    let name ← name
    let count ← directives
    let fields ← braces inputFieldReader
    pure (name, .inputObject fields, count != 0 || !fields.isEmpty)
  else if word = "type" then some do
    let name ← name
    let interfaces ← implementsReader
    let count ← directives
    let fields ← braces fieldReader
    pure (name, .object interfaces fields,
      !interfaces.isEmpty || count != 0 || !fields.isEmpty)
  else if word = "interface" then some do
    let name ← name
    let interfaces ← implementsReader
    let count ← directives
    let fields ← braces fieldReader
    pure (name, .interface interfaces fields, count != 0 || !fields.isEmpty)
  else if word = "union" then some do
    let name ← name
    let count ← directives
    let members ← membersReader
    pure (name, .union members, count != 0 || !members.isEmpty)
  else none

/-- The places where a directive may be declared to stand. -/
def directiveLocations : List String :=
  ["QUERY", "MUTATION", "SUBSCRIPTION", "FIELD", "FRAGMENT_DEFINITION", "FRAGMENT_SPREAD",
    "INLINE_FRAGMENT", "VARIABLE_DEFINITION", "SCHEMA", "SCALAR", "OBJECT", "FIELD_DEFINITION",
    "ARGUMENT_DEFINITION", "INTERFACE", "UNION", "ENUM", "ENUM_VALUE", "INPUT_OBJECT",
    "INPUT_FIELD_DEFINITION"]

/-- A place where a directive may stand. -/
def locationReader : Reader Unit := do
  if directiveLocations.contains (← name) then pure () else failure

/-- Whether a list of locations can begin with a lexeme. -/
def startsLocations : Lexeme → Bool
  | .name _ => true
  | .mark c => c == '|'
  | _ => false

/-- The locations of a directive, which may be left out. -/
def locationsReader : Reader Unit := do
  if ← nextIs startsLocations then
    discard (optionalMark '|')
    discard (separated '|' locationReader)

/-- What follows the keyword of a directive. -/
def directiveReader : Reader Definition := do
  mark '@'
  discard name
  if ← optionalMark '(' then
    discard (many1 startsDescribed inputFieldReader)
    mark ')'
  if ← keywordIsNext "repeatable" then keyword "repeatable"
  keyword "on"
  locationsReader
  pure .directive

/-- Adds one root to those given so far; no kind of operation has two. -/
def addRoot? (roots : Roots) (kind type : String) : Option Roots :=
  if kind = "query" ∧ roots.query.isNone then some { roots with query := some type }
  else if kind = "mutation" ∧ roots.mutation.isNone then
    some { roots with mutation := some type }
  else if kind = "subscription" ∧ roots.subscription.isNone then
    some { roots with subscription := some type }
  else none

/-- What follows the keyword of a schema definition. -/
def schemaReader (start : Position) : Reader Definition := do
  discard directives
  mark '\x7b'
  let given ← many Lexeme.isName (do
    let kind ← name
    mark ':'
    let type ← name
    pure (kind, type))
  mark '\x7d'
  match given.foldlM (fun roots root => addRoot? roots root.1 root.2) ⟨none, none, none⟩ with
  | some roots => pure (.schema start roots)
  | none => failure

/-- One definition. -/
def definitionReader : Reader Definition := do
  if ← keywordIsNext "schema" then
    let start ← Reader.position
    keyword "schema"
    schemaReader start
  else if ← keywordIsNext "extend" then
    keyword "extend"
    let start ← Reader.position
    let word ← name
    match bodyReader? word with
    | some reader =>
      let (name, body, adds) ← reader
      if adds then pure (.extension ⟨name, start, body⟩) else failure
    | none => failure
  else
    description
    let start ← Reader.position
    let word ← name
    if word = "directive" then directiveReader
    else
      match bodyReader? word with
      | some reader =>
        let (name, body, _) ← reader
        pure (.type ⟨name, start, body⟩)
      | none => failure

/-- The definitions that a text holds. -/
def ofText? (text : String) : Option (List Definition) :=
  run? (many1 (fun _ => true) definitionReader) text

end EnumBridge.TypeSystem
