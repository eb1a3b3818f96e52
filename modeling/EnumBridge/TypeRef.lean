import EnumBridge.Note
import EnumBridge.Json.Basic
import EnumBridge.Syntax.TypeExpr

/-!
# Type references

A `TypeRef` is the type of a field or an input field as a schema keeps it: a named type
wrapped in any number of list and non-null markers.  `TypeRef.ofExpr` makes one of a type
that is written in a document.  `TypeRef.descend` carries a change of the values of the
named type to the values of the whole type.
-/

set_option autoImplicit false

namespace EnumBridge

/-- A named type under list and non-null markers. -/
inductive TypeRef
  | named (name : String)
  | list (item : TypeRef)
  | nonNull (type : TypeRef)
  deriving DecidableEq

namespace TypeRef

/-- The type that is written in a document, marker for marker. -/
def ofExpr : Syntax.TypeExpr → TypeRef
  | .named name => .named name
  | .list item => .list (ofExpr item)
  | .nonNull type => .nonNull (ofExpr type)

/-- What is left of a type when the non-null markers around it are taken off. -/
inductive Shape
  | named (name : String)
  | list (item : TypeRef)

/-- The type without the non-null markers around it. -/
def shape : TypeRef → Shape
  | .named name => .named name
  | .list item => .list item
  | .nonNull type => type.shape

/-- The name under all markers. -/
def innermost : TypeRef → String
  | .named name => name
  | .list item => item.innermost
  | .nonNull type => type.innermost

/-- A type as text: `[T]` for a list, `T!` for a non-null type. -/
def text : TypeRef → String
  | .named name => name
  | .list item => "[" ++ item.text ++ "]"
  | .nonNull type => type.text ++ "!"

/-- A type as JSON: an object whose only member is named for the outermost marker. -/
def toJson : TypeRef → Json
  | .named name => .object [("Named", .string name)]
  | .list item => .object [("List", item.toJson)]
  | .nonNull type => .object [("NonNull", type.toJson)]

/-- The type that a JSON value stands for. -/
def ofJson? : Json → Option TypeRef
  | .object [("Named", .string name)] => some (.named name)
  | .object [("List", item)] => (ofJson? item).map .list
  | .object [("NonNull", type)] => (ofJson? type).map .nonNull
  | _ => none

/-- Changes the values at the named type: every item of an array under a list marker,
and the value itself where there is no list.  A value under a list marker that is not an
array is left alone. -/
def descend {ε : Type} (atNamed : String → Json → Attempt ε Json) :
    TypeRef → Json → Attempt ε Json
  | .named name, value => atNamed name value
  | .nonNull type, value => type.descend atNamed value
  | .list item, .array items => .array <$> items.mapM (item.descend atNamed)
  | .list _, value => pure value

end TypeRef

end EnumBridge
