import ExactCalc.Magnitude

/-!
# Rounding to doubles

The doubles are the rationals `m * 2 ^ e` with `|m| < 2 ^ 53` and `-1074 ≤ e ≤ 971`. A rational goes
to the nearest multiple of the unit for its order of magnitude, a half to the even neighbour. It
overflows when the result reaches `2 ^ 1024`.
-/

namespace ExactCalc.Double

/-- The number of bits in a mantissa. -/
def precision : Nat := 53

/-- The exponent of the unit of the smallest doubles. -/
def leastExponent : Int := -1074

/-- The power of two that no double reaches. -/
def bound : Rat := 2 ^ (1024 : Int)

def roundHalfEven (x : Rat) : Int :=
  let lower := x.floor
  let rest := x - lower
  if rest < 1 / 2 then lower
  else if 1 / 2 < rest then lower + 1
  else if lower % 2 = 0 then lower
  else lower + 1

/-- The distance between the doubles of the size of a positive rational. -/
def unit (x : Rat) : Rat :=
  2 ^ max leastExponent (Magnitude.binary x - (precision - 1 : Nat))

def nearestMagnitude? (x : Rat) : Option Rat :=
  let y := roundHalfEven (x / unit x) * unit x
  if y < bound then some y else none

/-- The nearest double, or nothing when there is no finite one. -/
def nearest? (x : Rat) : Option Rat :=
  if x < 0 then (nearestMagnitude? (-x)).map (-·) else nearestMagnitude? x

@[simp] theorem nearest?_zero : nearest? 0 = some 0 := by
  decide +kernel

/-- Rounding treats both signs alike. -/
theorem nearest?_neg (x : Rat) : nearest? (-x) = (nearest? x).map (-·) := by
  by_cases neg : x < 0
  · have notNeg : ¬ -x < 0 := by grind
    cases h : nearestMagnitude? (-x) <;> simp [nearest?, neg, notNeg, h]
  · by_cases pos : -x < 0
    · simp [nearest?, neg, pos]
    · have zero : x = 0 := by grind
      subst zero
      simp

end ExactCalc.Double
