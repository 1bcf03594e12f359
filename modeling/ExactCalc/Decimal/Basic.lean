import ExactCalc.Text.Numeral

/-!
# Decimals

The rationals with a finite decimal expansion, as a whole coefficient and a power of ten.
-/

namespace ExactCalc

structure Decimal where
  coefficient : Int
  exponent : Int
  deriving DecidableEq

namespace Decimal

def toRat (d : Decimal) : Rat :=
  d.coefficient * 10 ^ d.exponent

def negate (d : Decimal) : Decimal :=
  ⟨-d.coefficient, d.exponent⟩

/-- The digits of the coefficient without its sign; there is at least one. -/
def digits (d : Decimal) : List Char :=
  (Text.natText d.coefficient.natAbs).toList

/-- The exponent of the first digit when the point is put behind it. -/
def leadingExponent (d : Decimal) : Int :=
  d.exponent + d.digits.length - 1

end Decimal

end ExactCalc
