/-!
# Orders of magnitude

The order of a positive rational in a base is the exponent of the greatest power of the base that
does not exceed it. The lengths of numerator and denominator give it up to one, and a comparison
decides.
-/

namespace ExactCalc.Magnitude

/-- Corrects an estimate that is either the order or one more. -/
def settle (base : Nat) (estimate : Int) (x : Rat) : Int :=
  if (base : Rat) ^ estimate ≤ x then estimate else estimate - 1

def binary (x : Rat) : Int :=
  settle 2 (x.num.natAbs.log2 - x.den.log2) x

/-- How many decimal digits the number has. -/
def digitCount (n : Nat) : Nat :=
  n.repr.length

def decimal (x : Rat) : Int :=
  settle 10 (digitCount x.num.natAbs - digitCount x.den) x

end ExactCalc.Magnitude
