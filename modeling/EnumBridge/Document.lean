import EnumBridge.Syntax.Token
import EnumBridge.Syntax.TypeExpr

/-!
# Executable documents

A `Document` is a list of operations and fragments.  Of an operation it keeps its kind,
its name, the types of its variables and its selections; of a fragment its name, the
type it is for, its selections and its position.  Arguments, directives and default
values have no bearing on where enum values stand and are not kept.
-/

set_option autoImplicit false

namespace EnumBridge

/-- What an operation does. -/
inductive OperationKind
  | query
  | mutation
  | subscription
  deriving DecidableEq

/-- The lower-case name of a kind of operation. -/
def OperationKind.name : OperationKind → String
  | .query => "query"
  | .mutation => "mutation"
  | .subscription => "subscription"

/-- The name of a selected field and the alias it is given, if any. -/
structure FieldLabel where
  aliasName : Option String
  name : String
  deriving DecidableEq

/-- The name under which a field appears in a response: its alias, or else its name. -/
def FieldLabel.responseKey (label : FieldLabel) : String := label.aliasName.getD label.name

/-- One entry of a selection set. -/
inductive Selection
  /-- A field, with its own selections; a field without a selection set has none. -/
  | field (label : FieldLabel) (selections : List Selection)
  /-- Selections that hold for values of a type, or for all values. -/
  | inlineFragment (condition : Option String) (selections : List Selection)
  /-- The selections of the fragment of that name. -/
  | spread (fragment : String) (position : Syntax.Position)

/-- Whether a selection is a field. -/
def Selection.isField : Selection → Bool
  | .field _ _ => true
  | _ => false

/-- A variable and its type. -/
structure VariableDefinition where
  name : String
  type : Syntax.TypeExpr
  deriving DecidableEq

/-- A query, mutation or subscription. -/
structure Operation where
  kind : OperationKind
  name : Option String
  variableDefinitions : List VariableDefinition
  selections : List Selection

/-- Selections with a name, for values of a type. -/
structure Fragment where
  name : String
  condition : String
  selections : List Selection
  /-- Where the definition begins. -/
  position : Syntax.Position

/-- A definition of an executable document. -/
inductive Definition
  | operation (operation : Operation)
  | fragment (fragment : Fragment)

/-- An executable document. -/
structure Document where
  definitions : List Definition

namespace Document

/-- The operations of a document, in order. -/
def operations (document : Document) : List Operation :=
  document.definitions.filterMap fun
    | .operation operation => some operation
    | .fragment _ => none

/-- The fragments of a document, in order. -/
def fragments (document : Document) : List Fragment :=
  document.definitions.filterMap fun
    | .operation _ => none
    | .fragment fragment => some fragment

/-- The first operation of that name; without a name, the first operation. -/
def operation? (document : Document) (name : Option String) : Option Operation :=
  match name with
  | some name => document.operations.find? fun operation => operation.name == some name
  | none => document.operations.head?

/-- The fragment of that name.  Of several the last one counts. -/
def fragment? (document : Document) (name : String) : Option Fragment :=
  document.fragments.reverse.find? fun fragment => fragment.name == name

end Document

end EnumBridge
