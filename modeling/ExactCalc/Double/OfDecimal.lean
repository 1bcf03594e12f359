import ExactCalc.Decimal.Basic
import ExactCalc.Double.Rounding

/-!
# The double nearest to a decimal

A decimal may have an exponent far outside the range of doubles. Its leading exponent then decides,
and the power of ten is not computed.
-/

namespace ExactCalc.Double

/-- Every positive decimal with this leading exponent or more overflows. -/
def overflowingOrder : Int := 309

/-- Every decimal with this leading exponent or less rounds to zero. -/
def vanishingOrder : Int := -325

def ofDecimal? (d : Decimal) : Option Rat :=
  if d.coefficient = 0 then some 0
  else if overflowingOrder ≤ d.leadingExponent then none
  else if d.leadingExponent ≤ vanishingOrder then some 0
  else nearest? d.toRat

end ExactCalc.Double
