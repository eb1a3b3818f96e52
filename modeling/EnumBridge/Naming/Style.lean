import EnumBridge.Naming.Words

/-!
# Naming styles

A `NamingStyle` says how the words of an enum value are put together.  Two join the
words directly and tell them apart by capitals, three put a separator between them.
`NamingStyle.convert` puts a name into a style, whatever style it was in.

A style chooses one of the five conversions of the case library `heck`, version 0.5, and does
nothing itself.  `join` and `words` follow the rules of that library, so what is proved of
`convert` rests on the assumption that the library splits and spells names as they do.
-/

set_option autoImplicit false

namespace EnumBridge

/-- How the words of a name are put together. -/
inductive NamingStyle
  /-- `fancyCat` -/
  | camel
  /-- `fancy-cat` -/
  | kebab
  /-- `FancyCat` -/
  | pascal
  /-- `FANCY_CAT` -/
  | screamingSnake
  /-- `fancy_cat` -/
  | snake
  deriving DecidableEq

namespace NamingStyle

open Naming

/-- The words of a name, spelled and joined in a style: what the conversion of the case library
which the style chooses does with them. -/
def join : NamingStyle → List (List Char) → List Char
  | .camel, [] => []
  | .camel, first :: rest => lowerWord first ++ rest.flatMap capitalWord
  | .kebab, words => ['-'].intercalate (words.map lowerWord)
  | .pascal, words => words.flatMap capitalWord
  | .screamingSnake, words => ['_'].intercalate (words.map upperWord)
  | .snake, words => ['_'].intercalate (words.map lowerWord)

/-- A name put into a style: its words, found by the rules of the case library, spelled and
joined by them. -/
def convert (style : NamingStyle) (name : String) : String :=
  String.ofList (style.join (words name.toList))

/-- Every style. -/
def all : List NamingStyle := [.camel, .kebab, .pascal, .screamingSnake, .snake]

/-- The name of a style, spelled in that style. -/
def name : NamingStyle → String
  | .camel => "camelCase"
  | .kebab => "kebab-case"
  | .pascal => "PascalCase"
  | .screamingSnake => "SCREAMING_SNAKE_CASE"
  | .snake => "snake_case"

/-- The name of a style in a log line. -/
def label : NamingStyle → String
  | .camel => "CamelCase"
  | .kebab => "KebabCase"
  | .pascal => "PascalCase"
  | .screamingSnake => "ScreamingSnakeCase"
  | .snake => "SnakeCase"

/-- The style of that name. -/
def ofName? (text : String) : Option NamingStyle := all.find? fun style => style.name == text

/-- The style of that name or label. -/
def ofText? (text : String) : Option NamingStyle :=
  all.find? fun style => style.name == text || style.label == text

/-- What is said of a text that names no style. -/
def unknownMessage (text : String) : String := "Unknown enum value format `" ++ text ++ "`"

end NamingStyle

end EnumBridge
