/-!
# Finite binary64 numbers

A `Double` is held by its 64 bits: a sign, eleven bits of exponent and 52 bits of
fraction.  Its size is `significand * 2 ^ exponent`, a natural number times a power of
two, so everything else about doubles is arithmetic on natural numbers.

Two doubles are the same number when their bits agree or when both are zero, of
whatever sign (`Double.beq_iff`).
-/

set_option autoImplicit false

namespace EnumBridge

/-- A binary64 number, held by its bits. -/
structure Double where
  bits : UInt64
  deriving DecidableEq

namespace Double

/-- Whether the sign bit is set. -/
def isNegative (d : Double) : Bool := decide (Nat.pow 2 63 ≤ d.bits.toNat)

/-- The bits without the sign. -/
def magnitude (d : Double) : Nat := d.bits.toNat % Nat.pow 2 63

/-- The eleven exponent bits. -/
def exponentField (d : Double) : Nat := d.magnitude / Nat.pow 2 52

/-- The 52 fraction bits. -/
def fraction (d : Double) : Nat := d.magnitude % Nat.pow 2 52

/-- The whole number that is multiplied by a power of two: numbers of the smallest
exponent have no hidden leading bit. -/
def significand (d : Double) : Nat :=
  if d.exponentField = 0 then d.fraction else Nat.pow 2 52 + d.fraction

/-- The power of two that the significand is multiplied by. -/
def exponent (d : Double) : Int :=
  if d.exponentField = 0 then -1074 else (d.exponentField : Int) - 1075

/-- Whether the number is zero, of whatever sign. -/
def isZero (d : Double) : Bool := d.magnitude == 0

/-- Equality of numbers: the two zeros are equal. -/
instance : BEq Double where
  beq a b := decide (a.bits = b.bits) || (a.isZero && b.isZero)

/-- Two doubles are equal as numbers if their bits are equal or both are zeros. -/
theorem beq_iff (a b : Double) :
    (a == b) = true ↔ a = b ∨ (a.isZero = true ∧ b.isZero = true) := by
  show (decide (a.bits = b.bits) || (a.isZero && b.isZero)) = true ↔ _
  rw [Bool.or_eq_true, decide_eq_true_eq, Bool.and_eq_true]
  constructor
  · rintro (h | h)
    · exact .inl (by cases a; cases b; simp_all)
    · exact .inr h
  · rintro (rfl | h)
    · exact .inl rfl
    · exact .inr h

end Double

end EnumBridge
