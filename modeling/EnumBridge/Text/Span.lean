/-!
# Sets of characters

A `Span` is an arithmetic progression of code points.  A property of characters that a
standard gives by a table is a list of spans, one table to a module; the tables leave
out the ASCII characters, whose classes are those of `Char`.
-/

set_option autoImplicit false

namespace EnumBridge.Text

/-- The code points from `first` to `last` in steps of `step`. -/
structure Span where
  first : Nat
  last : Nat
  step : Nat

/-- Whether a code point belongs to a span. -/
def Span.has (s : Span) (point : Nat) : Bool :=
  decide (s.first ≤ point) && decide (point ≤ s.last) && (point - s.first) % s.step == 0

/-- Whether a character belongs to one of some spans. -/
def inSpans (spans : List Span) (c : Char) : Bool := spans.any fun s => s.has c.toNat

/-- Whether a character is one of the 128 of ASCII. -/
def isAscii (c : Char) : Bool := decide (c.toNat < 128)

end EnumBridge.Text
