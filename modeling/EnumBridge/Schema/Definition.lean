import EnumBridge.Document

/-!
# Type system documents

A `TypeSystem.Definition` is what a type system document says in one place: which types
are the roots of operations, what a type consists of, or what is added to a type that
is defined elsewhere.  `TypeBody` says what a type consists of; it is used both for what
one definition lists, where every field still has its position, and for the finished
type, where fields are looked up by name.
-/

set_option autoImplicit false

namespace EnumBridge

/-- The kinds of named types. -/
inductive TypeKind
  | scalar
  | enum
  | inputObject
  | object
  | interface
  | union
  deriving DecidableEq

/-- A kind in words. -/
def TypeKind.name : TypeKind → String
  | .scalar => "scalar"
  | .enum => "enum"
  | .inputObject => "input object"
  | .object => "object"
  | .interface => "interface"
  | .union => "union"

/-- What a named type consists of, with its fields in the form `φ`. -/
inductive TypeBody (φ : Type)
  | scalar
  | enum (values : List String)
  | inputObject (fields : φ)
  | object (interfaces : List String) (fields : φ)
  | interface (interfaces : List String) (fields : φ)
  | union (members : List String)
  deriving DecidableEq

/-- The kind of a type. -/
def TypeBody.kind {φ : Type} : TypeBody φ → TypeKind
  | .scalar => .scalar
  | .enum _ => .enum
  | .inputObject _ => .inputObject
  | .object _ _ => .object
  | .interface _ _ => .interface
  | .union _ => .union

/-- The types that the operations of each kind start from, where they are given. -/
structure Roots where
  query : Option String
  mutation : Option String
  subscription : Option String
  deriving DecidableEq

/-- The root given for a kind of operation. -/
def Roots.ofKind (roots : Roots) : OperationKind → Option String
  | .query => roots.query
  | .mutation => roots.mutation
  | .subscription => roots.subscription

namespace TypeSystem

/-- A field or an input field in a definition. -/
structure FieldDefinition where
  name : String
  position : Syntax.Position
  type : Syntax.TypeExpr
  deriving DecidableEq

/-- What a document says about one type in one place. -/
structure TypeClause where
  name : String
  position : Syntax.Position
  body : TypeBody (List FieldDefinition)
  deriving DecidableEq

/-- One definition of a type system document. -/
inductive Definition
  /-- The roots of operations. -/
  | schema (position : Syntax.Position) (roots : Roots)
  /-- A new type. -/
  | type (clause : TypeClause)
  /-- An addition to a type. -/
  | extension (clause : TypeClause)
  /-- A directive, of which nothing is kept. -/
  | directive
  deriving DecidableEq

end TypeSystem

end EnumBridge
