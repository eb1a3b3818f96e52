import EnumBridge.Double

/-!
# The fewest decimal digits that read back as a double

`Double.shortest d` is the decimal number with the fewest digits among those that are
closer to `d` than to any other double; of several with that many digits it is the one
nearest to `d`.  A number halfway between `d` and a neighbour counts as reading back
when the significand of `d` is even, which is how a reader that rounds to even decides.

All comparisons are between natural numbers: `d`, the two halfway points and the
decimal candidates are brought to a common denominator first.
-/

set_option autoImplicit false

namespace EnumBridge.Double

/-- The number `digits * 10 ^ exponent`. -/
structure Decimal where
  digits : Nat
  exponent : Int
  deriving DecidableEq

/-- How many decimal digits a number has; zero has one. -/
def digitCount (n : Nat) : Nat := (Nat.toDigits 10 n).length

/-- The exponent of the power of ten at or below `num / den`, for a positive number. -/
def decimalExponent (num den : Nat) : Int :=
  if den ≤ num then (digitCount (num / den) : Int) - 1
  else -(digitCount ((den + num - 1) / num - 1) : Int)

/-- A number between two halfway points, all three multiplied by `unit`. -/
structure Bracket where
  low : Nat
  middle : Nat
  high : Nat
  unit : Nat
  /-- Whether the halfway points themselves belong to the bracket. -/
  closed : Bool

/-- The size of a double and the points halfway to its neighbours, over a denominator
that also makes every multiple of `10 ^ place` whole; `unit` is that power of ten. -/
def bracket (d : Double) (place : Int) : Bracket :=
  let two : Int := d.exponent - 2
  let scale := Nat.pow 2 two.toNat * Nat.pow 10 (-place).toNat
  let below := if d.fraction = 0 ∧ 1 < d.exponentField then 1 else 2
  { low := (4 * d.significand - below) * scale
    middle := 4 * d.significand * scale
    high := (4 * d.significand + 2) * scale
    unit := Nat.pow 10 place.toNat * Nat.pow 2 (-two).toNat
    closed := d.significand % 2 == 0 }

/-- Whether `candidate` units lie between the halfway points. -/
def Bracket.holds (b : Bracket) (candidate : Nat) : Bool :=
  let x := candidate * b.unit
  if b.closed then decide (b.low ≤ x ∧ x ≤ b.high) else decide (b.low < x ∧ x < b.high)

/-- The multiple of the unit that is nearest to the middle, if a multiple next to the
middle lies in the bracket.  Of two that are equally near the even one is taken. -/
def Bracket.nearest? (b : Bracket) : Option Nat :=
  let down := b.middle / b.unit
  let up := down + 1
  let toDown := b.middle - down * b.unit
  let toUp := up * b.unit - b.middle
  match b.holds down, b.holds up with
  | true, true =>
    if toDown < toUp then some down
    else if toUp < toDown then some up
    else some (if down % 2 = 0 then down else up)
  | true, false => some down
  | false, true => some up
  | false, false => none

/-- Takes the zeros off the end of a number, `fuel` of them at most. -/
def Decimal.trim : Nat → Decimal → Decimal
  | 0, x => x
  | fuel + 1, x =>
    if x.digits ≠ 0 ∧ x.digits % 10 = 0 then
      Decimal.trim fuel ⟨x.digits / 10, x.exponent + 1⟩
    else x

/-- The decimal with the fewest digits that reads back as `d`, and of those the nearest
to `d`; the sign is left out.  Seventeen digits always suffice. -/
def shortest (d : Double) : Decimal :=
  if d.significand = 0 then ⟨0, 0⟩
  else
    let lead := decimalExponent (d.significand * Nat.pow 2 d.exponent.toNat)
      (Nat.pow 2 (-d.exponent).toNat)
    let withDigits (count : Nat) : Option Decimal :=
      let place := lead - count
      ((d.bracket place).nearest?).map fun n => ⟨n, place⟩
    match (List.range 17).findSome? withDigits with
    | some x => x.trim 20
    | none => ⟨d.significand, d.exponent⟩

end EnumBridge.Double
