import EnumBridge.Document
import EnumBridge.Syntax.Grammar

/-!
# Reading executable documents

`Document.ofText?` reads the operations and fragments of a text.  It fails on a text
that does not follow the grammar and on one without definitions.
-/

set_option autoImplicit false

namespace EnumBridge

open Syntax Reader

namespace Selection

/-- Whether a selection can begin with a lexeme. -/
def starts : Lexeme → Bool
  | .name _ | .spread => true
  | _ => false

/-- Whether an inline fragment without a type goes on with a lexeme. -/
def startsUntypedFragment : Lexeme → Bool
  | .mark c => c == '@' || c == '\x7b'
  | _ => false

/-- A selection, given how to read a selection set inside it. -/
def reader (selectionSet : Reader (List Selection)) : Reader Selection := do
  match ← take with
  | .name first =>
    let label ←
      if ← optionalMark ':' then
        let second ← name
        pure ⟨some first, second⟩
      else pure ⟨none, first⟩
    arguments
    discard directives
    let selections ← Reader.optional (· == .mark '\x7b') selectionSet
    pure (.field label (selections.getD []))
  | .spread =>
    let start ← Reader.position
    if ← keywordIsNext "on" then
      keyword "on"
      let condition ← name
      discard directives
      let selections ← selectionSet
      pure (.inlineFragment (some condition) selections)
    else if ← nextIs startsUntypedFragment then
      discard directives
      let selections ← selectionSet
      pure (.inlineFragment none selections)
    else
      let fragment ← name
      discard directives
      pure (.spread fragment start)
  | _ => failure

/-- A selection set in braces, with at least one selection; `depth` brackets may still
be opened. -/
def setReader : Nat → Reader (List Selection)
  | 0 => failure
  | depth + 1 => do
    mark '\x7b'
    let selections ← many1 starts (reader (setReader depth))
    mark '\x7d'
    pure selections

/-- A selection set of any depth. -/
def anySet : Reader (List Selection) := setReader maxOpenBrackets

end Selection

namespace Document

/-- A variable, its type, and a default value that is not kept. -/
def variableReader : Reader VariableDefinition := do
  mark '$'
  let name ← name
  mark ':'
  let type ← anyType
  if ← optionalMark '=' then constant
  pure ⟨name, type⟩

/-- Variables in parentheses, at least one, if there are any. -/
def variablesReader : Reader (List VariableDefinition) := do
  if ← optionalMark '(' then
    let all ← many1 (· == .mark '$') variableReader
    mark ')'
    pure all
  else pure []

/-- What follows the keyword of an operation. -/
def operationReader (kind : OperationKind) : Reader Definition := do
  let name ← Reader.optional Lexeme.isName name
  let definitions ← variablesReader
  discard directives
  let selections ← Selection.anySet
  pure (.operation ⟨kind, name, definitions, selections⟩)

/-- What follows the keyword of a fragment. -/
def fragmentReader (start : Position) : Reader Definition := do
  let name ← name
  keyword "on"
  let condition ← Reader.name
  discard directives
  let selections ← Selection.anySet
  pure (.fragment ⟨name, condition, selections, start⟩)

/-- An operation or a fragment.  A selection set alone is a query. -/
def definitionReader : Reader Definition := do
  if ← markIsNext '\x7b' then
    let selections ← Selection.anySet
    pure (.operation ⟨.query, none, [], selections⟩)
  else
    let start ← Reader.position
    let word ← name
    if word = "query" then operationReader .query
    else if word = "mutation" then operationReader .mutation
    else if word = "subscription" then operationReader .subscription
    else if word = "fragment" then fragmentReader start
    else failure

/-- The document that a text holds. -/
def ofText? (text : String) : Option Document :=
  (run? (many1 (fun _ => true) definitionReader) text).map Document.mk

end Document

end EnumBridge
