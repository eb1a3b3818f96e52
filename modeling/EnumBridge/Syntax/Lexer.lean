import EnumBridge.Numeral
import EnumBridge.Syntax.Token

/-!
# Cutting GraphQL text into tokens

`tokens?` reads a text once from left to right with a `Scanner`, which knows the tokens
met so far, how many brackets are open, the position of the next character, and what
kind of token it stands in.  It fails at the first character that no token can go on
with, and at the bracket that would open one level too many.

Between tokens a tab counts for eight columns, a space or a comma for one, a carriage
return or a byte order mark for none.  A comment ends at a line feed or a carriage
return, and either begins a new line.
-/

set_option autoImplicit false

namespace EnumBridge.Syntax

/-- How many brackets of any kind may be open at once. -/
def maxOpenBrackets : Nat := 50

/-- The kind of token that the next character belongs to, and where that token began.
What has been read of it is held backwards. -/
inductive Mode
  | between
  | comment
  | name (start : Position) (chars : List Char)
  | number (start : Position) (chars : List Char)
  /-- Behind one dot, or behind two. -/
  | dots (start : Position) (second : Bool)
  /-- Behind one quote, or behind two. -/
  | quotes (start : Position) (second : Bool)
  | text (start : Position)
  | escape (start : Position)
  /-- In the four characters of a numeric escape. -/
  | hex (start : Position) (chars : List Char)
  /-- In a block string, behind that many quotes in a row, which stand behind a backslash
  or not. -/
  | block (start : Position) (escaped : Bool) (quotes : Nat)

/-- The tokens met so far, last one first, the number of open brackets, the position of
the next character, and the token being read. -/
structure Scanner where
  tokens : List Token
  openBrackets : Nat
  here : Position
  mode : Mode

/-- Whether a name can begin with a character. -/
def isNameStart (c : Char) : Bool := c.isAlpha || c == '_'

/-- Whether a name can go on with a character. -/
def isNameChar (c : Char) : Bool := c.isAlphanum || c == '_'

/-- The punctuation marks of one character that are not brackets. -/
def plainMarks : List Char := ['!', '$', ':', '=', '@', '|', '&']

/-- The brackets that open. -/
def openingMarks : List Char := ['(', '[', '\x7b']

/-- The brackets that close. -/
def closingMarks : List Char := [')', ']', '\x7d']

/-- Whether a character ends a number. -/
def endsNumber (c : Char) : Bool :=
  [' ', '\n', '\r', '\t', ',', '#'].contains c || plainMarks.contains c ||
    openingMarks.contains c || closingMarks.contains c

/-- Whether an exponent may stand in a number: without a sign it begins with one of the
digits from 1 to 8. -/
def admitsPower (power : Numeral.Power) : Bool :=
  match power.sign, power.digits with
  | .absent, first :: _ => decide ('0' < first ∧ first < '9')
  | _, _ => true

/-- The lexeme of a number: an integer of 64 bits with sign, or a number with a fraction
or an exponent. -/
def numberLexeme? (chars : List Char) : Option Lexeme := do
  let n ← Numeral.ofChars? chars
  if n.isIntegral then
    let bound : Int := Nat.pow 2 63
    if -bound ≤ n.wholeValue ∧ n.wholeValue < bound then some .int else none
  else if n.power.all admitsPower then some .float
  else none

/-- The number that hexadecimal digits stand for; a plus sign may stand in front. -/
def hexNumber? (chars : List Char) : Option Nat :=
  let digits := match chars with
    | '+' :: rest => rest
    | _ => chars
  if digits.isEmpty then none
  else digits.foldlM (fun n c => (Numeral.hexValue? c).map fun d => n * 16 + d) 0

/-- Whether four characters behind `\u` name a character. -/
def isUnicodeEscape (chars : List Char) : Bool :=
  match hexNumber? chars with
  | some n => decide (n < 0xD800 ∨ 0xE000 ≤ n)
  | none => false

/-- Whether a character may stand behind a backslash, `\u` apart. -/
def isSimpleEscape (c : Char) : Bool := ['"', '\\', '/', 'b', 'f', 'n', 'r', 't'].contains c

namespace Scanner

/-- Moves on by some columns. -/
def advance (s : Scanner) (columns : Nat) : Scanner :=
  { s with here := ⟨s.here.line, s.here.column + columns⟩ }

/-- Moves on to the next line. -/
def newLine (s : Scanner) : Scanner := { s with here := ⟨s.here.line + 1, 1⟩ }

/-- Goes on in some kind of token. -/
def enter (s : Scanner) (mode : Mode) : Scanner := { s with mode := mode }

/-- Goes on behind a complete token. -/
def emit (s : Scanner) (lexeme : Lexeme) (start : Position) : Scanner :=
  { s with tokens := ⟨lexeme, start⟩ :: s.tokens, mode := .between }

/-- Reads a character that begins a token or stands between two. -/
def begin (s : Scanner) (c : Char) : Option Scanner :=
  if c = ' ' ∨ c = ',' then some (s.advance 1)
  else if c = '\n' then some s.newLine
  else if c = '\t' then some (s.advance 8)
  else if c = '\r' ∨ c.toNat = 0xFEFF then some s
  else if c = '#' then some (s.enter .comment)
  else if c = '"' then some ((s.enter (.quotes s.here false)).advance 1)
  else if c = '.' then some ((s.enter (.dots s.here false)).advance 1)
  else if isNameStart c then some ((s.enter (.name s.here [c])).advance 1)
  else if c = '-' ∨ c.isDigit then some ((s.enter (.number s.here [c])).advance 1)
  else if plainMarks.contains c then some ((s.emit (.mark c) s.here).advance 1)
  else if openingMarks.contains c then
    if s.openBrackets < maxOpenBrackets then
      some { (s.emit (.mark c) s.here).advance 1 with openBrackets := s.openBrackets + 1 }
    else none
  else if closingMarks.contains c then
    some { (s.emit (.mark c) s.here).advance 1 with openBrackets := s.openBrackets - 1 }
  else none

/-- Reads one character. -/
def step (s : Scanner) (c : Char) : Option Scanner :=
  match s.mode with
  | .between => s.begin c
  | .comment => some (if c = '\n' ∨ c = '\r' then (s.enter .between).newLine else s)
  | .name start chars =>
    if isNameChar c then some ((s.enter (.name start (c :: chars))).advance 1)
    else (s.emit (.name (String.ofList chars.reverse)) start).begin c
  | .number start chars =>
    if endsNumber c then do
      let lexeme ← numberLexeme? chars.reverse
      (s.emit lexeme start).begin c
    else some ((s.enter (.number start (c :: chars))).advance 1)
  | .dots start second =>
    if c = '.' then
      some ((if second then s.emit .spread start else s.enter (.dots start true)).advance 1)
    else none
  | .quotes start second =>
    if c = '"' then
      some ((s.enter (if second then .block start false 0 else .quotes start true)).advance 1)
    else if second then (s.emit .string start).begin c
    else if c = '\\' then some ((s.enter (.escape start)).advance 1)
    else if c = '\n' then none
    else some ((s.enter (.text start)).advance 1)
  | .text start =>
    if c = '"' then some ((s.emit .string start).advance 1)
    else if c = '\\' then some ((s.enter (.escape start)).advance 1)
    else if c = '\n' then none
    else some (s.advance 1)
  | .escape start =>
    if c = 'u' then some ((s.enter (.hex start [])).advance 1)
    else if isSimpleEscape c then some ((s.enter (.text start)).advance 1)
    else none
  | .hex start chars =>
    if chars.length < 3 then some ((s.enter (.hex start (c :: chars))).advance 1)
    else if isUnicodeEscape (c :: chars).reverse then some ((s.enter (.text start)).advance 1)
    else none
  | .block start escaped quotes =>
    if c = '"' then
      if quotes < 2 then some ((s.enter (.block start escaped (quotes + 1))).advance 1)
      else if escaped then some ((s.enter (.block start false 0)).advance 1)
      else some ((s.emit .string start).advance 1)
    else
      let s := s.enter (.block start (c == '\\') 0)
      some (if c = '\n' then s.newLine else s.advance 1)

/-- The tokens of a text that has been read to its end. -/
def finish (s : Scanner) : Option (List Token) :=
  match s.mode with
  | .between | .comment => some s.tokens.reverse
  | .name start chars =>
    some (s.emit (.name (String.ofList chars.reverse)) start).tokens.reverse
  | .number start chars =>
    (numberLexeme? chars.reverse).map fun lexeme => (s.emit lexeme start).tokens.reverse
  | .quotes start true => some (s.emit .string start).tokens.reverse
  | _ => none

end Scanner

/-- The tokens of a text. -/
def tokens? (text : String) : Option (List Token) :=
  (text.toList.foldlM Scanner.step ⟨[], 0, ⟨1, 1⟩, .between⟩).bind Scanner.finish

end EnumBridge.Syntax
