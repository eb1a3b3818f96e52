import EnumBridge.Double

/-!
# Reading a decimal number as a double

`Double.ofDecimal?` turns a sign, a whole number of at most 64 bits and a power of ten
into a double: the whole number is rounded to a double first, and is then multiplied or
divided by the power of ten.  A result too large for a double is refused.

Each of the two steps rounds to nearest, so the result can differ in its last bit from
the double nearest to the decimal number.
-/

set_option autoImplicit false

namespace EnumBridge.Double

/-- The largest power of ten that a double can come near. -/
def maxPowerOfTen : Nat := 308

/-- Multiplies a size by a power of ten; powers below the smallest one that a double can
hold are divided off in steps. -/
def scaleByPowerOfTen? (x : Float) (power : Int) : Option Float :=
  if 0 ≤ power then
    if power.toNat ≤ maxPowerOfTen then
      let y := x * Float.ofScientific 1 false power.toNat
      if y.isInf then none else some y
    else if x == 0 then some x else none
  else if h : power < -308 then
    if x == 0 then some x
    else scaleByPowerOfTen? (x / Float.ofScientific 1 false maxPowerOfTen) (power + 308)
  else some (x / Float.ofScientific 1 false (-power).toNat)
termination_by power.natAbs
decreasing_by omega

/-- The double that `significand * 10 ^ power` is read as, with a sign; `none` if it is
too large. -/
def ofDecimal? (negative : Bool) (significand : UInt64) (power : Int) : Option Double :=
  (scaleByPowerOfTen? significand.toFloat power).map fun size =>
    ⟨(if negative then -size else size).toBits⟩

end EnumBridge.Double
