import EnumBridge.Numeral
import EnumBridge.Json.Basic
import EnumBridge.Double.Reading

/-!
# The tokens of a JSON text

`Json.tokens?` cuts a text into brackets, commas, colons, words, numbers and strings.
It reads the text once from left to right with a `Scanner`, which knows the tokens met
so far and what kind of token it stands in; a text is refused at the first character
that no token can go on with.
-/

set_option autoImplicit false

namespace EnumBridge.Json

/-- A token of a JSON text. -/
inductive Token
  | openArray
  | closeArray
  | openObject
  | closeObject
  | comma
  | colon
  | null
  | bool (value : Bool)
  /-- A number, or nothing if it is too large. -/
  | number (value : Option Number)
  /-- A string, or nothing if it holds half of a surrogate pair. -/
  | string (value : Option String)

/-! ## Numbers -/

/-- The digits of a number gathered in 64 bits.  `significand` stops growing with the
first digit that would not fit, and `skipped` counts the digits left out from there. -/
structure Gathered where
  significand : Nat
  skipped : Nat
  full : Bool

/-- Gathers one more digit. -/
def Gathered.add (g : Gathered) (c : Char) : Gathered :=
  let grown := g.significand * 10 + Numeral.digitValue c
  if g.full then { g with skipped := g.skipped + 1 }
  else if grown < Nat.pow 2 64 then { g with significand := grown }
  else { g with skipped := g.skipped + 1, full := true }

/-- The value of a number, or nothing if it is too large for a double.

Without fraction and exponent it is an integer if it lies between `-2 ^ 63` and
`2 ^ 64 - 1`; minus zero is a double.  Otherwise as many of its digits are gathered as
fit in 64 bits, and the power of ten makes up for the digits behind the point and for
the whole digits that did not fit. -/
def numberValue? (n : Numeral) : Option Number :=
  let whole := n.whole.foldl Gathered.add ⟨0, 0, false⟩
  let integral := n.isIntegral && !whole.full
  if integral && !n.negative then some (.integer whole.significand)
  else if integral && whole.significand != 0 && decide (whole.significand ≤ Nat.pow 2 63) then
    some (.integer (-(whole.significand : Int)))
  else
    let behind := n.fraction.getD []
    let all := behind.foldl Gathered.add { whole with skipped := 0, full := false }
    let gathered : Int := behind.length - all.skipped
    (Double.ofDecimal? n.negative all.significand.toUInt64
      ((whole.skipped : Int) - gathered + n.powerValue)).map .double

/-! ## Strings -/

/-- The string of a list of 16-bit escapes and characters, a high surrogate joined with
the low one behind it; nothing if a surrogate stands alone. -/
def textOfUnits? : List Nat → Option (List Char)
  | [] => some []
  | unit :: rest =>
    if 0xD800 ≤ unit ∧ unit < 0xDC00 then
      match rest with
      | low :: rest =>
        if 0xDC00 ≤ low ∧ low < 0xE000 then
          (textOfUnits? rest).map
            (Char.ofNat (0x10000 + (unit - 0xD800) * 0x400 + (low - 0xDC00)) :: ·)
        else none
      | [] => none
    else if 0xDC00 ≤ unit ∧ unit < 0xE000 then none
    else (textOfUnits? rest).map (Char.ofNat unit :: ·)

/-- What the character behind a backslash stands for, `\u` apart. -/
def unescape? (c : Char) : Option Nat :=
  if c = '"' ∨ c = '\\' ∨ c = '/' then some c.toNat
  else if c = 'b' then some 8
  else if c = 'f' then some 12
  else if c = 'n' then some 10
  else if c = 'r' then some 13
  else if c = 't' then some 9
  else none

/-! ## Scanning -/

/-- The kind of token that the next character belongs to.  What has been read of the
token is held backwards. -/
inductive Mode
  | between
  /-- In a number or a word. -/
  | bare (chars : List Char)
  /-- In a string. -/
  | text (units : List Nat)
  /-- Behind a backslash in a string. -/
  | escape (units : List Nat)
  /-- In the four digits of an escape: how many are still to come, and their value. -/
  | hex (units : List Nat) (missing : Nat) (value : Nat)

/-- The tokens met so far, last one first, and the token being read. -/
structure Scanner where
  tokens : List Token
  mode : Mode

/-- Whether a character can belong to a number or to a word. -/
def isBare (c : Char) : Bool :=
  c.isAlphanum || c == '-' || c == '+' || c == '.'

/-- The token that a run of such characters makes up. -/
def bareToken? (chars : List Char) : Option Token :=
  match chars with
  | ['n', 'u', 'l', 'l'] => some .null
  | ['t', 'r', 'u', 'e'] => some (.bool true)
  | ['f', 'a', 'l', 's', 'e'] => some (.bool false)
  | _ => (Numeral.ofChars? chars).map fun n => .number (numberValue? n)

namespace Scanner

/-- Goes on behind a complete token. -/
def emit (s : Scanner) (token : Token) : Scanner := ⟨token :: s.tokens, .between⟩

/-- Reads a character that begins a token or stands between two. -/
def begin (s : Scanner) (c : Char) : Option Scanner :=
  if c = ' ' ∨ c = '\n' ∨ c = '\r' ∨ c = '\t' then some s
  else if c = '[' then some (s.emit .openArray)
  else if c = ']' then some (s.emit .closeArray)
  else if c = '\x7b' then some (s.emit .openObject)
  else if c = '\x7d' then some (s.emit .closeObject)
  else if c = ',' then some (s.emit .comma)
  else if c = ':' then some (s.emit .colon)
  else if c = '"' then some { s with mode := .text [] }
  else if isBare c then some { s with mode := .bare [c] }
  else none

/-- Reads one character. -/
def step (s : Scanner) (c : Char) : Option Scanner :=
  match s.mode with
  | .between => s.begin c
  | .bare chars =>
    if isBare c then some { s with mode := .bare (c :: chars) }
    else do
      let token ← bareToken? chars.reverse
      (s.emit token).begin c
  | .text units =>
    if c = '"' then some (s.emit (.string ((textOfUnits? units.reverse).map String.ofList)))
    else if c = '\\' then some { s with mode := .escape units }
    else if c.toNat < 32 then none
    else some { s with mode := .text (c.toNat :: units) }
  | .escape units =>
    if c = 'u' then some { s with mode := .hex units 4 0 }
    else (unescape? c).map fun unit => { s with mode := .text (unit :: units) }
  | .hex units missing value => do
    let digit ← Numeral.hexValue? c
    let value := value * 16 + digit
    if missing = 1 then some { s with mode := .text (value :: units) }
    else some { s with mode := .hex units (missing - 1) value }

/-- The tokens of a text that has been read to its end. -/
def finish (s : Scanner) : Option (List Token) :=
  match s.mode with
  | .between => some s.tokens.reverse
  | .bare chars => (bareToken? chars.reverse).map fun token => (token :: s.tokens).reverse
  | _ => none

end Scanner

/-- The tokens of a text. -/
def tokens? (text : List Char) : Option (List Token) :=
  (text.foldlM Scanner.step ⟨[], .between⟩).bind Scanner.finish

end EnumBridge.Json
