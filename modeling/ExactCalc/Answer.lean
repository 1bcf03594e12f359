import ExactCalc.Decimal.Layout
import ExactCalc.Double.Shortest

/-!
# Answers

A whole number of 64 bits is answered exactly. Any other value is answered by the nearest double, in
the shortest decimal that reads back, with a point or an exponent to tell it from a whole number.
-/

namespace ExactCalc

inductive Answer
  | whole (n : Int)
  | double (y : Rat)
  deriving DecidableEq

namespace Answer

/-- Doubles from `0.00001` up to but not including `10 ^ 16` are written positionally. -/
def layout : Decimal.Layout := ⟨-5, 16⟩

/-- The bound of signed numbers of 64 bits. -/
def int64Bound : Nat := Nat.pow 2 63

def isInt64 (n : Int) : Bool :=
  -int64Bound ≤ n && n < int64Bound

def ofRat? (v : Rat) : Option Answer :=
  if v.den = 1 ∧ isInt64 v.num then some (whole v.num) else (Double.nearest? v).map double

def text : Answer → String
  | whole n => Text.intText n
  | double y => (Double.shortest y).text layout

end Answer

end ExactCalc
