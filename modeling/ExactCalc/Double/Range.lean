import ExactCalc.Double.Rounding
import ExactCalc.Rejection

/-!
# The range of doubles

A value is accepted when it rounds to a finite double and does not vanish in rounding. It is not
changed by the test.
-/

namespace ExactCalc.Double

def requireInRange (r : Rat) : Except Rejection Rat :=
  match nearest? r with
  | none => .error .tooLarge
  | some y => if y = 0 ∧ r ≠ 0 then .error .tooSmall else .ok r

end ExactCalc.Double
