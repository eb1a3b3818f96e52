import EnumBridge.Schema.Definition
import EnumBridge.Table
import EnumBridge.TypeRef

/-!
# Schemas

A `Schema` is a table of types and the names of the types that operations start from.  It
is what is left of any number of type system documents once extensions have been merged
into the types they extend.

A type has a name of its own beside the one under which it stands in the table.  That the
two are the same is not said here; it is a property of the schemas that are built
(`Schema.Keyed`).
-/

set_option autoImplicit false

namespace EnumBridge

/-- Fields and their types, in order. -/
abbrev FieldTable := Table TypeRef

/-- A named type. -/
structure TypeDef where
  name : String
  body : TypeBody FieldTable
  deriving DecidableEq

namespace TypeDef

/-- The kind of a type. -/
def kind (type : TypeDef) : TypeKind := type.body.kind

/-- The fields of an object type. -/
def objectFields? (type : TypeDef) : Option FieldTable :=
  match type.body with
  | .object _ fields => some fields
  | _ => none

/-- Whether values of a type may stand in variables. -/
def isInput (type : TypeDef) : Bool :=
  match type.kind with
  | .scalar | .enum | .inputObject => true
  | _ => false

end TypeDef

/-- Types under names, and the types that operations start from. -/
structure Schema where
  roots : Roots
  types : Table TypeDef
  deriving DecidableEq

namespace Schema

/-- The type under that name. -/
def find? (schema : Schema) (name : String) : Option TypeDef := schema.types.lookup name

/-- The type that operations of a kind start from. -/
def root? (schema : Schema) (kind : OperationKind) : Option TypeDef :=
  (schema.roots.ofKind kind).bind schema.find?

end Schema

end EnumBridge
