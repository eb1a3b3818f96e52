/-!
# Types as they are written

A `TypeExpr` is a type as it stands in a document, behind a variable or a field.
-/

set_option autoImplicit false

namespace EnumBridge.Syntax

/-- A type as a document writes it. -/
inductive TypeExpr
  /-- A name by itself. -/
  | named (name : String)
  /-- A type in square brackets. -/
  | list (item : TypeExpr)
  /-- A type with an exclamation mark behind it. -/
  | nonNull (type : TypeExpr)
  deriving DecidableEq

end EnumBridge.Syntax
