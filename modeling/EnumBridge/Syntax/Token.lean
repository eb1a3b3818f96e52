/-!
# Positions and tokens of GraphQL text

A `Token` is a lexeme with the position of its first character.  Lines and columns
count from one.  Of a number or a string only the kind is kept: the library reads the
structure of a document, not the constants in it.
-/

set_option autoImplicit false

namespace EnumBridge.Syntax

/-- A place in a text, counted from one. -/
structure Position where
  line : Nat
  column : Nat
  deriving DecidableEq

/-- A place as text: line, colon, column. -/
def Position.text (p : Position) : String := toString p.line ++ ":" ++ toString p.column

/-- The smallest meaningful unit of a text. -/
inductive Lexeme
  /-- A punctuation mark of one character. -/
  | mark (char : Char)
  /-- Three dots. -/
  | spread
  | name (text : String)
  | int
  | float
  | string
  deriving DecidableEq

/-- A lexeme and where it begins. -/
structure Token where
  lexeme : Lexeme
  position : Position
  deriving DecidableEq

end EnumBridge.Syntax
