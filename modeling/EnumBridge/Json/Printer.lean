import EnumBridge.Json.Basic
import EnumBridge.Double.Shortest

/-!
# Compact JSON text

`Json.compact` writes a value without spaces, its members in the order in which they
are held.  A string is written raw except for the quote, the backslash and the control
characters below U+0020.  A double has the fewest digits that read back, always with a
fraction or an exponent; it is positional from `10 ^ -5` up to `10 ^ 16`, and an exponent
always has a sign.
-/

set_option autoImplicit false

namespace EnumBridge

/-- The digit characters of a number below sixteen. -/
def hexDigit (n : Nat) : Char := Nat.digitChar n

namespace Json

/-- How one character of a string is written. -/
def escapeChar (c : Char) : List Char :=
  if c = '"' then ['\\', '"']
  else if c = '\\' then ['\\', '\\']
  else if c.toNat = 8 then ['\\', 'b']
  else if c.toNat = 12 then ['\\', 'f']
  else if c = '\n' then ['\\', 'n']
  else if c = '\r' then ['\\', 'r']
  else if c = '\t' then ['\\', 't']
  else if c.toNat < 32 then
    ['\\', 'u', '0', '0', hexDigit (c.toNat / 16), hexDigit (c.toNat % 16)]
  else [c]

/-- A string in quotes, with what has to be escaped escaped. -/
def quote (s : String) : String :=
  "\"" ++ String.ofList (s.toList.flatMap escapeChar) ++ "\""

end Json

namespace Double

/-- That many zeros. -/
def zeros (n : Nat) : String := String.ofList (List.replicate n '0')

/-- An exponent as text: the letter, a sign, and the digits. -/
def powerText (power : Int) : String :=
  (if power < 0 then "e-" else "e+") ++ toString power.natAbs

/-- The size of a double as text: positional where its leading digit stands between the
fifth place behind the point and the sixteenth before it, else with an exponent. -/
def Decimal.text (x : Decimal) : String :=
  let digits := Nat.toDigits 10 x.digits
  let count := digits.length
  let point : Int := count + x.exponent
  if 0 ≤ x.exponent ∧ point ≤ 16 then
    String.ofList digits ++ zeros x.exponent.toNat ++ ".0"
  else if 0 < point ∧ point ≤ 16 then
    String.ofList (digits.take point.toNat) ++ "." ++ String.ofList (digits.drop point.toNat)
  else if -5 < point ∧ point ≤ 0 then
    "0." ++ zeros (-point).toNat ++ String.ofList digits
  else if count = 1 then
    String.ofList digits ++ powerText (point - 1)
  else
    String.ofList (digits.take 1) ++ "." ++ String.ofList (digits.drop 1) ++
      powerText (point - 1)

/-- A double as text, with its sign. -/
def text (d : Double) : String :=
  (if d.isNegative then "-" else "") ++ d.shortest.text

end Double

/-- A number as text. -/
def Number.text : Number → String
  | .integer n => toString n
  | .double d => d.text

namespace Json

mutual

/-- A value as compact text. -/
def compact : Json → String
  | .null => "null"
  | .bool true => "true"
  | .bool false => "false"
  | .number n => n.text
  | .string s => quote s
  | .array items => "[" ++ ",".intercalate (itemTexts items) ++ "]"
  | .object members => "\x7b" ++ ",".intercalate (memberTexts members) ++ "\x7d"

/-- The texts of the items of an array. -/
def itemTexts : List Json → List String
  | [] => []
  | item :: rest => item.compact :: itemTexts rest

/-- The texts of the members of an object. -/
def memberTexts : List (String × Json) → List String
  | [] => []
  | (name, value) :: rest => (quote name ++ ":" ++ value.compact) :: memberTexts rest

end

end Json

end EnumBridge
