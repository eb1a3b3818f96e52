/-!
# Numbers as they are written

A `Numeral` is a number in the notation that JSON and GraphQL share: an optional minus
sign, whole digits without a superfluous zero in front, optionally a point with digits
behind it, and optionally an exponent.
-/

set_option autoImplicit false

namespace EnumBridge

/-- The sign in front of an exponent. -/
inductive Numeral.PowerSign
  /-- No sign is written. -/
  | absent
  | plus
  | minus
  deriving DecidableEq

/-- An exponent as it is written. -/
structure Numeral.Power where
  sign : Numeral.PowerSign
  digits : List Char

/-- The parts of a number as it is written. -/
structure Numeral where
  negative : Bool
  whole : List Char
  fraction : Option (List Char)
  power : Option Numeral.Power

namespace Numeral

/-- The value of a digit character. -/
def digitValue (c : Char) : Nat := c.toNat - 48

/-- The value of a hexadecimal digit of either case. -/
def hexValue? (c : Char) : Option Nat :=
  if '0' ≤ c ∧ c ≤ '9' then some (c.toNat - 48)
  else if 'a' ≤ c ∧ c ≤ 'f' then some (c.toNat - 87)
  else if 'A' ≤ c ∧ c ≤ 'F' then some (c.toNat - 55)
  else none

/-- The number that a run of digits stands for. -/
def natOfDigits (digits : List Char) : Nat :=
  digits.foldl (fun n c => n * 10 + digitValue c) 0

/-- The longest run of digits at the front, and what follows it. -/
def spanDigits (cs : List Char) : List Char × List Char :=
  (cs.takeWhile Char.isDigit, cs.dropWhile Char.isDigit)

/-- Takes a minus sign off the front. -/
def sign : List Char → Bool × List Char
  | '-' :: rest => (true, rest)
  | cs => (false, cs)

/-- Takes the whole digits off the front: at least one, and no zero before another. -/
def wholeDigits? (cs : List Char) : Option (List Char × List Char) :=
  match spanDigits cs with
  | ([], _) => none
  | (['0'], rest) => some (['0'], rest)
  | ('0' :: _, _) => none
  | (digits, rest) => some (digits, rest)

/-- Takes a point and at least one digit off the front, if there is a point. -/
def fraction? : List Char → Option (Option (List Char) × List Char)
  | '.' :: rest =>
    match spanDigits rest with
    | ([], _) => none
    | (digits, rest) => some (some digits, rest)
  | cs => some (none, cs)

/-- Takes the sign of an exponent off the front. -/
def powerSign : List Char → PowerSign × List Char
  | '-' :: rest => (.minus, rest)
  | '+' :: rest => (.plus, rest)
  | cs => (.absent, cs)

/-- Takes an exponent off the front, if there is one: its letter, a sign, and at least
one digit. -/
def power? : List Char → Option (Option Power × List Char)
  | [] => some (none, [])
  | c :: rest =>
    if c = 'e' ∨ c = 'E' then
      let (sign, rest) := powerSign rest
      match spanDigits rest with
      | ([], _) => none
      | (digits, rest) => some (some ⟨sign, digits⟩, rest)
    else some (none, c :: rest)

/-- The parts of a number that fills the whole text. -/
def ofChars? (cs : List Char) : Option Numeral := do
  let (negative, cs) := sign cs
  let (whole, cs) ← wholeDigits? cs
  let (fraction, cs) ← fraction? cs
  let (power, cs) ← power? cs
  if cs.isEmpty then some ⟨negative, whole, fraction, power⟩ else none

/-- Whether a number has neither a fraction nor an exponent. -/
def isIntegral (n : Numeral) : Bool := n.fraction.isNone && n.power.isNone

/-- The whole part with its sign. -/
def wholeValue (n : Numeral) : Int :=
  if n.negative then -(natOfDigits n.whole : Int) else natOfDigits n.whole

/-- The number that an exponent stands for. -/
def Power.value (power : Power) : Int :=
  match power.sign with
  | .minus => -(natOfDigits power.digits : Int)
  | _ => natOfDigits power.digits

/-- The exponent with its sign; zero if there is none. -/
def powerValue (n : Numeral) : Int := (n.power.map Power.value).getD 0

end Numeral

end EnumBridge
