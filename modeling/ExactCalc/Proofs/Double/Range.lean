import ExactCalc.Proofs.Double.Rounding
import Mathlib.Order.Interval.Set.Defs

/-!
# The limits of the range

A value is too large from the point halfway between the greatest double and the power of two that no
double reaches, and too small up to half of the least double above zero. At both points the tie goes
to the even mantissa, which is the one outside of the range, so neither point is accepted.

Only the nonnegative values are looked at; rounding treats both signs alike.
-/

namespace ExactCalc.Double

variable {x y : Rat}

/-- The distance between the greatest doubles. -/
def lastUnit : Rat := 2 ^ (971 : Int)

/-- The greatest double. -/
def greatest : Rat := (2 ^ precision - 1) * lastUnit

/-- The least double above zero. -/
def least : Rat := 2 ^ leastExponent

/-- Halfway between the greatest double and the power of two that no double reaches. -/
def upperLimit : Rat := 2 ^ 1024 - 2 ^ 970

/-- Halfway between zero and the least double above it. -/
def lowerLimit : Rat := 2 ^ (-1075 : Int)

theorem lastUnit_pos : 0 < lastUnit := by
  rw [lastUnit]
  positivity

theorem bound_eq : bound = 2 ^ precision * lastUnit := by
  rw [bound, lastUnit, ← zpow_natCast, ← zpow_add₀ (by norm_num)]
  rfl

theorem greatest_eq : greatest = bound - lastUnit := by
  rw [greatest, bound_eq, sub_mul, one_mul]

theorem upperLimit_eq : upperLimit = bound - lastUnit / 2 := by
  have hunit : lastUnit = 2 ^ 970 * 2 := by
    rw [lastUnit, ← pow_succ, ← zpow_natCast]
    rfl
  have hbound : (2 : Rat) ^ 1024 = bound := by
    rw [bound, ← zpow_natCast]
    rfl
  rw [upperLimit, hbound, hunit, mul_div_cancel_right₀ _ (by norm_num)]

theorem least_eq : least = lowerLimit * 2 := by
  rw [lowerLimit, ← zpow_add_one₀ (by norm_num)]
  rfl

theorem lowerLimit_pos : 0 < lowerLimit := by
  rw [lowerLimit]
  positivity

theorem lowerLimit_lt_upperLimit : lowerLimit < upperLimit := by
  have hlower : lowerLimit < lastUnit := zpow_lt_zpow_right₀ (by norm_num) (by norm_num)
  have hupper : lastUnit * 2 ≤ bound := by
    rw [bound_eq, mul_comm]
    exact mul_le_mul_of_nonneg_right (by norm_num [precision]) lastUnit_pos.le
  rw [upperLimit_eq]
  linarith [lastUnit_pos]

theorem isUnboundedDouble_bound : IsUnboundedDouble bound :=
  ⟨1, 1024, by decide, by decide, by rw [bound, Int.cast_one, one_mul]⟩

theorem isUnboundedDouble_least : IsUnboundedDouble least :=
  ⟨1, leastExponent, by decide, le_rfl, by rw [least, Int.cast_one, one_mul]⟩

/-- All bits of the mantissa of the greatest double are set. -/
theorem isCarried_greatest : IsCarried (2 ^ precision - 1) 971 :=
  ⟨by decide, by decide, by decide, fun _ ↦ by decide⟩

theorem greatest_eq_mul : greatest = ((2 ^ precision - 1 : Int) : Rat) * 2 ^ (971 : Int) := by
  rw [greatest, lastUnit, Int.cast_sub, Int.cast_pow, Int.cast_ofNat, Int.cast_one]

theorem isUnboundedDouble_greatest : IsUnboundedDouble greatest := by
  rw [greatest_eq_mul]
  exact isCarried_greatest.isUnboundedDouble

theorem not_hasEvenMantissa_greatest : ¬ HasEvenMantissa greatest := by
  rw [greatest_eq_mul, isCarried_greatest.hasEvenMantissa_iff]
  decide

theorem hasEvenMantissa_zero : HasEvenMantissa 0 :=
  ⟨0, leastExponent, ⟨by decide, le_rfl, fun h ↦ absurd h (lt_irrefl _)⟩, by decide, by simp⟩

/-- No double lies between the greatest one and the bound. -/
theorem IsUnboundedDouble.le_greatest (hy : IsUnboundedDouble y) (hlt : y < bound) :
    y ≤ greatest := by
  obtain ⟨m, e, hm, -, rfl⟩ := hy
  -- In either case the mantissa is not full, in the unit of the double or in the last unit.
  by_cases he : e ≤ 971
  · have hmantissa : (m : Rat) ≤ 2 ^ precision - 1 := by
      have hle : m ≤ 2 ^ precision - 1 := Int.le_sub_one_of_lt (lt_of_le_of_lt (le_abs_self m) hm)
      exact_mod_cast hle
    calc
      (m : Rat) * 2 ^ e ≤ (2 ^ precision - 1) * 2 ^ e :=
        mul_le_mul_of_nonneg_right hmantissa (by positivity)
      _ ≤ greatest :=
        mul_le_mul_of_nonneg_left (zpow_le_zpow_right₀ (by norm_num) he) (by norm_num [precision])
  · have hexponent : e = (e - 971).toNat + 971 := by omega
    have hmultiple : (m : Rat) * 2 ^ e = ((m * 2 ^ (e - 971).toNat : Int) : Rat) * lastUnit := by
      rw [Int.cast_mul, Int.cast_pow, Int.cast_ofNat, lastUnit, mul_assoc, ← zpow_natCast,
        ← zpow_add₀ (by norm_num), ← hexponent]
    rw [hmultiple, bound_eq] at hlt
    have hmantissa : m * 2 ^ (e - 971).toNat < 2 ^ precision := by
      exact_mod_cast lt_of_mul_lt_mul_right hlt lastUnit_pos.le
    rw [hmultiple, greatest]
    apply mul_le_mul_of_nonneg_right _ lastUnit_pos.le
    exact_mod_cast Int.le_sub_one_of_lt hmantissa

/-- No double lies between zero and the least one above it. -/
theorem IsUnboundedDouble.least_le (hy : IsUnboundedDouble y) (hpos : 0 < y) : least ≤ y := by
  obtain ⟨m, e, -, he, rfl⟩ := hy
  have hunit : (0 : Rat) < 2 ^ e := by positivity
  have hmantissa : (1 : Rat) ≤ m := by
    have hm : 0 < m := by exact_mod_cast pos_of_mul_pos_left hpos hunit.le
    exact_mod_cast hm
  calc
    least ≤ 2 ^ e := zpow_le_zpow_right₀ (by norm_num) he
    _ ≤ m * 2 ^ e := le_mul_of_one_le_left hunit.le hmantissa

/-- Up to half of the least double zero is nearest, or as near and even. -/
theorem roundsTo_zero_of_le (hx : 0 ≤ x) (hle : x ≤ lowerLimit) : RoundsTo x 0 := by
  refine ⟨isUnboundedDouble_zero, fun z hz ↦ ?_, fun _ _ _ _ ↦ hasEvenMantissa_zero⟩
  rw [sub_zero, abs_of_nonneg hx, le_abs]
  by_cases hpos : 0 < z
  · right
    have hz := hz.least_le hpos
    rw [least_eq] at hz
    linarith
  · left
    linarith

theorem RoundsTo.le_lowerLimit (hx : 0 ≤ x) (h : RoundsTo x 0) : x ≤ lowerLimit := by
  have hnearest := h.nearest least isUnboundedDouble_least
  rw [sub_zero, abs_of_nonneg hx, least_eq] at hnearest
  rcases le_abs.mp hnearest with habove | hbelow
  · linarith [lowerLimit_pos]
  · linarith

theorem exists_roundsTo (hx : 0 ≤ x) : ∃ y, RoundsTo x y := by
  rcases hx.eq_or_lt with rfl | hpos
  · exact ⟨0, roundsTo_zero_iff.mpr rfl⟩
  · exact ⟨_, roundsTo_mantissa hpos⟩

/-- Halfway to the bound the greatest double is as near, but its mantissa is odd. -/
theorem RoundsTo.lt_upperLimit (h : RoundsTo x y) (hlt : y < bound) : x < upperLimit := by
  have hunit := lastUnit_pos
  have hlimit := upperLimit_eq
  have hgreatest := greatest_eq
  have hy := h.isDouble.le_greatest hlt
  have hnearest := h.nearest bound isUnboundedDouble_bound
  by_contra hx
  rw [not_lt] at hx
  rw [abs_of_pos (by linarith)] at hnearest
  rcases le_abs.mp hnearest with habove | hbelow
  · linarith
  · have hlast : y = greatest := by linarith
    have hmiddle : x = upperLimit := by linarith
    apply not_hasEvenMantissa_greatest
    rw [← hlast]
    apply h.even bound isUnboundedDouble_bound hlt.ne'
    rw [abs_of_neg (by linarith), abs_of_pos (by linarith)]
    linarith

/-- Below the point halfway to the bound the greatest double is nearer than the bound. -/
theorem RoundsTo.lt_bound (h : RoundsTo x y) (hlt : x < upperLimit) : y < bound := by
  have hunit := lastUnit_pos
  have hlimit := upperLimit_eq
  have hgreatest := greatest_eq
  have hnearest := h.nearest greatest isUnboundedDouble_greatest
  by_contra hy
  rw [not_lt] at hy
  rw [abs_of_neg (by linarith), le_abs] at hnearest
  rcases hnearest with habove | hbelow
  · linarith
  · linarith

/-! ## The limits -/

theorem nearest?_eq_none_iff (hx : 0 ≤ x) : nearest? x = none ↔ upperLimit ≤ x := by
  obtain ⟨y, hround⟩ := exists_roundsTo hx
  have hy := hround.nonneg hx
  constructor
  · intro h
    by_contra hlt
    rw [not_le] at hlt
    have hbound : |y| < bound := by
      rw [abs_of_nonneg hy]
      exact hround.lt_bound hlt
    rw [nearest?_eq_some_iff.mpr ⟨hround, hbound⟩] at h
    exact absurd h (by simp)
  · intro hle
    rw [Option.eq_none_iff_forall_ne_some]
    intro z hz
    obtain ⟨hz, hbound⟩ := nearest?_eq_some_iff.mp hz
    exact absurd hle (not_le.mpr (hz.lt_upperLimit (lt_of_abs_lt hbound)))

theorem nearest?_eq_zero_iff (hx : 0 ≤ x) : nearest? x = some 0 ↔ x ≤ lowerLimit := by
  rw [nearest?_eq_some_iff]
  constructor
  · intro h
    exact h.1.le_lowerLimit hx
  · intro hle
    refine ⟨roundsTo_zero_of_le hx hle, ?_⟩
    rw [abs_zero]
    exact zpow_pos (by norm_num) _

theorem requireInRange_eq_tooLarge_iff :
    requireInRange x = .error .tooLarge ↔ nearest? x = none := by
  unfold requireInRange
  split
  · next h => simp [h]
  · next y h => split_ifs <;> simp [h]

theorem requireInRange_eq_tooSmall_iff :
    requireInRange x = .error .tooSmall ↔ nearest? x = some 0 ∧ x ≠ 0 := by
  unfold requireInRange
  split
  · next h => simp [h]
  · next y h => split_ifs with hzero <;> simpa [h] using hzero

/-- The test treats both signs alike. -/
theorem requireInRange_neg (x : Rat) : requireInRange (-x) = (requireInRange x).map (-·) := by
  unfold requireInRange
  rw [nearest?_neg]
  cases nearest? x with
  | none => rfl
  | some y =>
    simp only [Option.map_some, neg_eq_zero, ne_eq]
    split_ifs <;> rfl

theorem requireInRange_neg_eq_error_iff {cause : Rejection} :
    requireInRange (-x) = .error cause ↔ requireInRange x = .error cause := by
  rw [requireInRange_neg]
  cases requireInRange x <;> simp [Except.map]

theorem requireInRange_abs_eq_error_iff {cause : Rejection} :
    requireInRange |x| = .error cause ↔ requireInRange x = .error cause := by
  rcases abs_choice x with habs | habs
  · rw [habs]
  · rw [habs, requireInRange_neg_eq_error_iff]

theorem requireInRange_eq_tooLarge_iff_le_abs :
    requireInRange x = .error .tooLarge ↔ upperLimit ≤ |x| := by
  rw [← requireInRange_abs_eq_error_iff, requireInRange_eq_tooLarge_iff,
    nearest?_eq_none_iff (abs_nonneg x)]

theorem requireInRange_eq_tooSmall_iff_abs_le :
    requireInRange x = .error .tooSmall ↔ 0 < |x| ∧ |x| ≤ lowerLimit := by
  rw [← requireInRange_abs_eq_error_iff, requireInRange_eq_tooSmall_iff,
    nearest?_eq_zero_iff (abs_nonneg x), and_comm, (abs_nonneg x).lt_iff_ne']

/-- What is refused at neither limit is accepted as it is. -/
theorem requireInRange_eq_ok_iff_abs :
    requireInRange x = .ok x ↔ x = 0 ∨ lowerLimit < |x| ∧ |x| < upperLimit := by
  have hlarge : requireInRange x = .error .tooLarge ↔ upperLimit ≤ |x| :=
    requireInRange_eq_tooLarge_iff_le_abs
  have hsmall : requireInRange x = .error .tooSmall ↔ 0 < |x| ∧ |x| ≤ lowerLimit :=
    requireInRange_eq_tooSmall_iff_abs_le
  rw [abs_pos] at hsmall
  constructor
  · intro h
    rw [h] at hlarge hsmall
    by_cases hx : x = 0
    · exact .inl hx
    · exact .inr ⟨by simpa [hx] using hsmall, by simpa using hlarge⟩
  · intro h
    cases hresult : requireInRange x with
    | ok v => rw [(requireInRange_eq_ok_iff.mp hresult).1]
    | error cause =>
      rcases (of_requireInRange_eq_error hresult).2 with rfl | rfl
      · have hle := hlarge.mp hresult
        rcases h with rfl | h
        · rw [abs_zero] at hle
          exact absurd (lowerLimit_pos.trans lowerLimit_lt_upperLimit) (not_lt.mpr hle)
        · exact absurd h.2 (not_lt.mpr hle)
      · obtain ⟨hne, hle⟩ := hsmall.mp hresult
        exact absurd (h.resolve_left hne).1 (not_lt.mpr hle)

/-- A value is refused from one limit on and up to the other, both included, and is otherwise
accepted unchanged; the accepted magnitudes other than zero are those between the limits. -/
theorem requireInRange_limits :
    (∀ r, (requireInRange r = .error .tooLarge ↔ 2 ^ 1024 - 2 ^ 970 ≤ |r|) ∧
      (requireInRange r = .error .tooSmall ↔ 0 < |r| ∧ |r| ≤ 2 ^ (-1075 : Int)) ∧
      (requireInRange r = .ok r ↔
        r = 0 ∨ 2 ^ (-1075 : Int) < |r| ∧ |r| < 2 ^ 1024 - 2 ^ 970) ∧
      ∀ cause, requireInRange (-r) = .error cause ↔ requireInRange r = .error cause) ∧
    {x : Rat | 0 < x ∧ ∃ r, |r| = x ∧ requireInRange r = .ok r} =
      Set.Ioo (2 ^ (-1075 : Int)) (2 ^ 1024 - 2 ^ 970) := by
  constructor
  · intro r
    refine ⟨requireInRange_eq_tooLarge_iff_le_abs, requireInRange_eq_tooSmall_iff_abs_le,
      requireInRange_eq_ok_iff_abs, ?_⟩
    intro cause
    exact requireInRange_neg_eq_error_iff
  · ext x
    constructor
    · intro h
      obtain ⟨hpos, r, rfl, hr⟩ := h
      exact (requireInRange_eq_ok_iff_abs.mp hr).resolve_left (abs_pos.mp hpos)
    · intro h
      have hpos : 0 < x := lowerLimit_pos.trans h.1
      refine ⟨hpos, x, abs_of_pos hpos, requireInRange_eq_ok_iff_abs.mpr (.inr ?_)⟩
      rw [abs_of_pos hpos]
      exact h

end ExactCalc.Double
