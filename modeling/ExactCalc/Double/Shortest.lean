import ExactCalc.Decimal.Basic
import ExactCalc.Double.Rounding

/-!
# The shortest decimal of a double

The decimal with the fewest digits that rounds back to the double; of those the nearest one, and of
two equally near the one with an even last digit. For each number of digits only the two neighbours
of the double on that decimal grid have to be tried.
-/

namespace ExactCalc.Double

def readsBackAs (y : Rat) (d : Decimal) : Bool :=
  nearest? d.toRat = some y

/-- Of two decimals around the double the nearer one, in a tie the one with an even last digit. -/
def nearer (y : Rat) (lower upper : Decimal) : Decimal :=
  if y - lower.toRat < upper.toRat - y then lower
  else if upper.toRat - y < y - lower.toRat then upper
  else if lower.coefficient % 2 = 0 then lower
  else upper

/-- The neighbour of the double among the multiples of `10 ^ exponent` that reads back. -/
def onGrid? (y : Rat) (exponent : Int) : Option Decimal :=
  let coefficient := (y / 10 ^ exponent).floor
  let lower : Decimal := ⟨coefficient, exponent⟩
  let upper : Decimal := ⟨coefficient + 1, exponent⟩
  match readsBackAs y lower, readsBackAs y upper with
  | true, true => some (nearer y lower upper)
  | true, false => some lower
  | false, true => some upper
  | false, false => none

/-- All digits of a rational whose denominator is a power of two. -/
def expansion (y : Rat) : Decimal :=
  ⟨y.num * Nat.pow 5 y.den.log2, -y.den.log2⟩

/-- Seventeen digits tell any two doubles apart, so the full expansion is only a last resort. -/
def shortestMagnitude (y : Rat) : Decimal :=
  let order := Magnitude.decimal y
  ((List.range 17).findSome? fun (place : Nat) ↦ onGrid? y (order - place)).getD (expansion y)

def shortest (y : Rat) : Decimal :=
  if y = 0 then ⟨0, 0⟩
  else if y < 0 then (shortestMagnitude (-y)).negate
  else shortestMagnitude y

end ExactCalc.Double
