import ExactCalc.Double.Range
import ExactCalc.Proofs.Magnitude
import Mathlib.Algebra.Group.Int.Even
import Mathlib.Algebra.Order.Ring.Abs
import Mathlib.Data.Rat.Floor
import Mathlib.Tactic.Linarith
import Mathlib.Tactic.Positivity
import Mathlib.Tactic.Ring

/-!
# Rounding to doubles

What rounding to nearest with ties to even means is said without reference to the computation: among
the doubles with exponents of any size the result is nearest, and where two of them are equally near
its mantissa is even. Such a result exists and is the only one, and the computation finds it.

The doubles that can be nearest to a positive rational are multiples of its unit. Finer doubles lie
below the power of two that the rational reaches, and this power is itself a multiple of the unit.
-/

namespace ExactCalc.Double

/-- A double, but the exponent may be larger than doubles have it. -/
def IsUnboundedDouble (y : Rat) : Prop :=
  ∃ m e : Int, |m| < 2 ^ precision ∧ leastExponent ≤ e ∧ y = m * 2 ^ e

/-- The mantissa and exponent in which a double is stored: all bits of the mantissa are used, unless
the exponent is the least. -/
structure IsCanonical (m e : Int) : Prop where
  lt : |m| < 2 ^ precision
  least : leastExponent ≤ e
  full : leastExponent < e → 2 ^ (precision - 1) ≤ |m|

def HasEvenMantissa (y : Rat) : Prop :=
  ∃ m e : Int, IsCanonical m e ∧ Even m ∧ y = m * 2 ^ e

/-- Rounding to nearest, ties to even. -/
structure RoundsTo (x y : Rat) : Prop where
  isDouble : IsUnboundedDouble y
  nearest : ∀ z, IsUnboundedDouble z → |x - y| ≤ |x - z|
  even : ∀ z, IsUnboundedDouble z → z ≠ y → |x - z| = |x - y| → HasEvenMantissa y

theorem abs_sub_roundHalfEven_le (x : Rat) : |x - roundHalfEven x| ≤ 1 / 2 := by
  have hlower := Rat.floor_le x
  have hupper := Rat.lt_floor_add_one x
  push_cast at hupper
  rw [abs_le]
  unfold roundHalfEven
  dsimp only
  split_ifs <;> push_cast <;> constructor <;> linarith

/-- Halfway between two integers the even one is taken. -/
theorem even_roundHalfEven {x : Rat} (h : |x - roundHalfEven x| = 1 / 2) :
    Even (roundHalfEven x) := by
  have hlower := Rat.floor_le x
  have hupper := Rat.lt_floor_add_one x
  push_cast at hupper
  unfold roundHalfEven at h ⊢
  dsimp only at h ⊢
  rw [Int.even_iff]
  split_ifs at h ⊢ with hless hmore heven
  · rw [abs_of_nonneg (by linarith)] at h
    linarith
  · push_cast at h
    rw [abs_of_nonpos (by linarith)] at h
    linarith
  · exact heven
  · omega

section Integers

variable {x : Rat} {n k : Int}

theorem le_of_abs_sub_le_half (h : |x - n| ≤ 1 / 2) (hk : k ≤ x) : k ≤ n := by
  have hn := (abs_le.mp h).2
  have hlt : (k : Rat) < n + 1 := by linarith
  exact Int.lt_add_one_iff.mp (by exact_mod_cast hlt)

theorem ge_of_abs_sub_le_half (h : |x - n| ≤ 1 / 2) (hk : x ≤ k) : n ≤ k := by
  have hn := (abs_le.mp h).1
  have hlt : (n : Rat) < k + 1 := by linarith
  exact Int.lt_add_one_iff.mp (by exact_mod_cast hlt)

/-- Two integers that are at most half away from one rational are neighbours around it. -/
theorem abs_sub_eq_half (hn : |x - n| ≤ 1 / 2) (hk : |x - k| ≤ 1 / 2) (hne : n ≠ k) :
    |x - n| = 1 / 2 ∧ |n - k| = 1 := by
  have hdistance : 1 ≤ |n - k| := Int.one_le_abs (sub_ne_zero.mpr hne)
  have htriangle : (|n - k| : Rat) ≤ |x - n| + |x - k| := by
    have h := abs_sub_le (n : Rat) x k
    rwa [abs_sub_comm (n : Rat) x] at h
  have hcast : (1 : Rat) ≤ |(n : Rat) - k| := by exact_mod_cast hdistance
  constructor
  · linarith
  · have hle : |(n : Rat) - k| ≤ 1 := by linarith
    have hle' : |n - k| ≤ 1 := by exact_mod_cast hle
    omega

theorem abs_sub_roundHalfEven_le_abs_sub (x : Rat) (n : Int) :
    |x - roundHalfEven x| ≤ |x - n| := by
  have hround := abs_sub_roundHalfEven_le x
  by_cases hfar : 1 / 2 ≤ |x - n|
  · exact hround.trans hfar
  · have hnear : |x - n| ≤ 1 / 2 := (lt_of_not_ge hfar).le
    by_cases hne : n = roundHalfEven x
    · rw [hne]
    · rw [(abs_sub_eq_half hnear hround hne).1] at hfar
      exact absurd le_rfl hfar

end Integers

/-- Of two canonical forms the one with the larger exponent is larger. -/
theorem IsCanonical.abs_lt_abs {m e m' e' : Int} (h : IsCanonical m e) (h' : IsCanonical m' e')
    (he : e < e') : |(m * 2 ^ e : Rat)| < |(m' * 2 ^ e' : Rat)| := by
  have hm : |(m : Rat)| < 2 ^ precision := by exact_mod_cast h.lt
  have hm' : (2 : Rat) ^ (precision - 1) ≤ |(m' : Rat)| := by
    exact_mod_cast h'.full (lt_of_le_of_lt h.least he)
  have hpow : (2 : Rat) ^ (e + 1) ≤ 2 ^ e' := zpow_le_zpow_right₀ (by norm_num) he
  have hpos : (0 : Rat) < 2 ^ e := by positivity
  have hpos' : (0 : Rat) < 2 ^ e' := by positivity
  rw [abs_mul, abs_mul, abs_of_pos hpos, abs_of_pos hpos']
  calc
    |(m : Rat)| * 2 ^ e < 2 ^ precision * 2 ^ e := mul_lt_mul_of_pos_right hm hpos
    _ = 2 ^ (precision - 1) * 2 ^ (e + 1) := by
      rw [zpow_add_one₀ (by norm_num), precision]
      ring
    _ ≤ 2 ^ (precision - 1) * 2 ^ e' := mul_le_mul_of_nonneg_left hpow (by positivity)
    _ ≤ |(m' : Rat)| * 2 ^ e' := mul_le_mul_of_nonneg_right hm' hpos'.le

theorem IsCanonical.mantissa_eq {m e m' e' : Int} (h : IsCanonical m e) (h' : IsCanonical m' e')
    (heq : (m * 2 ^ e : Rat) = m' * 2 ^ e') : m = m' := by
  rcases lt_trichotomy e e' with he | rfl | he
  · have hlt := h.abs_lt_abs h' he
    rw [heq] at hlt
    exact absurd hlt (lt_irrefl _)
  · have hpos : (0 : Rat) < 2 ^ e := by positivity
    exact_mod_cast mul_right_cancel₀ hpos.ne' heq
  · have hlt := h'.abs_lt_abs h he
    rw [heq] at hlt
    exact absurd hlt (lt_irrefl _)

/-- A mantissa that uses all bits, or one that a carry has made one bit longer. -/
structure IsCarried (m e : Int) : Prop where
  nonneg : 0 ≤ m
  le : m ≤ 2 ^ precision
  least : leastExponent ≤ e
  full : leastExponent < e → 2 ^ (precision - 1) ≤ m

/-- A carry moves the mantissa by one bit, which does not change whether it is even. -/
theorem IsCarried.exists_canonical {m e : Int} (h : IsCarried m e) :
    ∃ m' e' : Int, IsCanonical m' e' ∧ (m * 2 ^ e : Rat) = m' * 2 ^ e' ∧ (Even m' ↔ Even m) := by
  by_cases hlt : m < 2 ^ precision
  · refine ⟨m, e, ⟨?_, h.least, fun he ↦ ?_⟩, rfl, Iff.rfl⟩
    · rwa [abs_of_nonneg h.nonneg]
    · rw [abs_of_nonneg h.nonneg]
      exact h.full he
  · have hm : m = 2 ^ precision := le_antisymm h.le (not_lt.mp hlt)
    refine ⟨2 ^ (precision - 1), e + 1, ⟨by decide, ?_, fun _ ↦ by decide⟩, ?_, ?_⟩
    · exact h.least.trans (Int.le_add_one le_rfl)
    · rw [hm, zpow_add_one₀ (by norm_num), precision]
      push_cast
      ring
    · rw [hm]
      decide

theorem IsCarried.isUnboundedDouble {m e : Int} (h : IsCarried m e) :
    IsUnboundedDouble (m * 2 ^ e) := by
  obtain ⟨m', e', hcanonical, heq, -⟩ := h.exists_canonical
  exact ⟨m', e', hcanonical.lt, hcanonical.least, heq⟩

theorem IsCarried.hasEvenMantissa_iff {m e : Int} (h : IsCarried m e) :
    HasEvenMantissa (m * 2 ^ e) ↔ Even m := by
  obtain ⟨m', e', hcanonical, heq, heven⟩ := h.exists_canonical
  rw [heq, ← heven]
  constructor
  · intro h
    obtain ⟨n, k, hn, hevenn, hvalue⟩ := h
    rwa [hcanonical.mantissa_eq hn hvalue]
  · intro hm
    exact ⟨m', e', hcanonical, hm, rfl⟩

def unitExponent (x : Rat) : Int :=
  max leastExponent (Magnitude.binary x - (precision - 1 : Nat))

theorem unit_eq (x : Rat) : unit x = 2 ^ unitExponent x := rfl

theorem unit_pos (x : Rat) : 0 < unit x := by
  rw [unit_eq]
  positivity

section Positive

variable {x : Rat}

theorem lt_mul_unit (hx : 0 < x) : x < 2 ^ precision * unit x := by
  have horder := (Magnitude.isOrder_binary hx).lt
  have hexponent : Magnitude.binary x + 1 ≤ precision + unitExponent x := by
    have hmax := le_max_right leastExponent (Magnitude.binary x - (precision - 1 : Nat))
    rw [← unitExponent] at hmax
    simp only [precision] at hmax ⊢
    omega
  calc
    x < 2 ^ (Magnitude.binary x + 1) := by exact_mod_cast horder
    _ ≤ 2 ^ (precision + unitExponent x) := zpow_le_zpow_right₀ (by norm_num) hexponent
    _ = 2 ^ precision * unit x := by
      rw [zpow_add₀ (by norm_num), zpow_natCast, unit_eq]

/-- The power of two that the rational reaches is a multiple of its unit. -/
theorem mul_unit_le (hx : 0 < x) (hleast : leastExponent < unitExponent x) :
    2 ^ (precision - 1) * unit x ≤ x := by
  have horder := (Magnitude.isOrder_binary hx).le
  have hexponent : (precision - 1 : Nat) + unitExponent x = Magnitude.binary x := by
    rw [unitExponent] at hleast ⊢
    omega
  calc
    2 ^ (precision - 1) * unit x = 2 ^ ((precision - 1 : Nat) + unitExponent x) := by
      rw [zpow_add₀ (by norm_num), zpow_natCast, unit_eq]
    _ ≤ x := by
      rw [hexponent]
      exact_mod_cast horder

/-- The integers that are nearest to the rational in its unit are mantissas. -/
theorem isCarried_of_abs_sub_le_half (hx : 0 < x) {n : Int} (hn : |x / unit x - n| ≤ 1 / 2) :
    IsCarried n (unitExponent x) := by
  have hunit := unit_pos x
  refine ⟨?_, ?_, le_max_left _ _, fun hleast ↦ ?_⟩
  · apply le_of_abs_sub_le_half hn
    push_cast
    positivity
  · apply ge_of_abs_sub_le_half hn
    push_cast
    rw [div_le_iff₀ hunit]
    exact (lt_mul_unit hx).le
  · apply le_of_abs_sub_le_half hn
    push_cast
    rw [le_div_iff₀ hunit]
    exact mul_unit_le hx hleast

theorem abs_sub_mul_unit (x : Rat) (n : Int) :
    |x - n * unit x| = |x / unit x - n| * unit x := by
  have hunit := unit_pos x
  have hfactor : x - n * unit x = (x / unit x - n) * unit x := by
    rw [sub_mul, div_mul_cancel₀ x hunit.ne']
  rw [hfactor, abs_mul, abs_of_pos hunit]

/-- A double is a multiple of the unit, or lies below a power of two that the rational reaches. -/
theorem IsUnboundedDouble.multiple_or_lt (x : Rat) {z : Rat} (hz : IsUnboundedDouble z) :
    (∃ n : Int, z = n * unit x) ∨
      (leastExponent < unitExponent x ∧ z < 2 ^ (precision - 1) * unit x) := by
  obtain ⟨m, e, hm, he, rfl⟩ := hz
  by_cases hcoarse : unitExponent x ≤ e
  · left
    refine ⟨m * 2 ^ (e - unitExponent x).toNat, ?_⟩
    have hexponent : e = (e - unitExponent x).toNat + unitExponent x := by omega
    rw [unit_eq]
    push_cast
    rw [mul_assoc, ← zpow_natCast, ← zpow_add₀ (by norm_num), ← hexponent]
  · right
    have hfine : e < unitExponent x := not_le.mp hcoarse
    refine ⟨lt_of_le_of_lt he hfine, ?_⟩
    have hmantissa : (m : Rat) < 2 ^ precision := by
      have hle := le_abs_self m
      exact_mod_cast lt_of_le_of_lt hle hm
    calc
      (m : Rat) * 2 ^ e < 2 ^ precision * 2 ^ e :=
        mul_lt_mul_of_pos_right hmantissa (by positivity)
      _ = 2 ^ (precision - 1) * 2 ^ (e + 1) := by
        rw [zpow_add_one₀ (by norm_num), precision]
        ring
      _ ≤ 2 ^ (precision - 1) * unit x := by
        rw [unit_eq]
        apply mul_le_mul_of_nonneg_left _ (by positivity)
        exact zpow_le_zpow_right₀ (by norm_num) hfine

/-! ## The nearest double -/

/-- The mantissa that a positive rational is rounded to, in its unit. -/
def mantissa (x : Rat) : Int :=
  roundHalfEven (x / unit x)

theorem abs_sub_mantissa_le (x : Rat) (n : Int) :
    |x - mantissa x * unit x| ≤ |x - n * unit x| := by
  rw [abs_sub_mul_unit, abs_sub_mul_unit]
  exact mul_le_mul_of_nonneg_right (abs_sub_roundHalfEven_le_abs_sub _ n) (unit_pos x).le

theorem isCarried_mantissa (hx : 0 < x) : IsCarried (mantissa x) (unitExponent x) :=
  isCarried_of_abs_sub_le_half hx (abs_sub_roundHalfEven_le _)

/-- Doubles that are not multiples of the unit are farther away than the power of two between them
and the rational. -/
theorem IsUnboundedDouble.eq_mul_unit (hx : 0 < x) {z : Rat} (hz : IsUnboundedDouble z)
    (hnear : |x - z| ≤ |x - mantissa x * unit x|) : ∃ n : Int, z = n * unit x := by
  rcases hz.multiple_or_lt x with hmultiple | ⟨hleast, hlt⟩
  · exact hmultiple
  · have hpower := mul_unit_le hx hleast
    have hbest := abs_sub_mantissa_le x (2 ^ (precision - 1))
    push_cast at hbest
    rw [abs_of_nonneg (sub_nonneg.mpr hpower)] at hbest
    rw [abs_of_pos (by linarith)] at hnear
    linarith

theorem IsUnboundedDouble.abs_sub_mantissa_le (hx : 0 < x) {z : Rat} (hz : IsUnboundedDouble z) :
    |x - mantissa x * unit x| ≤ |x - z| := by
  apply le_of_not_gt
  intro hcloser
  obtain ⟨n, rfl⟩ := hz.eq_mul_unit hx hcloser.le
  exact absurd (Double.abs_sub_mantissa_le x n) (not_le.mpr hcloser)

/-- Another multiple of the unit that is equally near is a neighbour, and the mantissa is even. -/
theorem even_mantissa_of_tie {n : Int} (hne : n ≠ mantissa x)
    (htie : |x - n * unit x| = |x - mantissa x * unit x|) :
    Even (mantissa x) ∧ |n - mantissa x| = 1 ∧ |x / unit x - n| ≤ 1 / 2 := by
  rw [abs_sub_mul_unit, abs_sub_mul_unit] at htie
  have hequal := mul_right_cancel₀ (unit_pos x).ne' htie
  have hmantissa : |x / unit x - mantissa x| ≤ 1 / 2 := abs_sub_roundHalfEven_le _
  have hn : |x / unit x - n| ≤ 1 / 2 := hequal.trans_le hmantissa
  have hhalf := abs_sub_eq_half hn hmantissa hne
  exact ⟨even_roundHalfEven (hequal.symm.trans hhalf.1), hhalf.2, hn⟩

theorem roundsTo_mantissa (hx : 0 < x) : RoundsTo x (mantissa x * unit x) := by
  refine ⟨(isCarried_mantissa hx).isUnboundedDouble, fun z hz ↦ hz.abs_sub_mantissa_le hx, ?_⟩
  intro z hz hne htie
  obtain ⟨n, rfl⟩ := hz.eq_mul_unit hx htie.le
  have hn : n ≠ mantissa x := by
    intro heq
    subst heq
    exact hne rfl
  exact (isCarried_mantissa hx).hasEvenMantissa_iff.mpr (even_mantissa_of_tie hn htie).1

/-- Of two neighbouring mantissas only one is even. -/
theorem RoundsTo.eq_mantissa_mul_unit (hx : 0 < x) {y : Rat} (h : RoundsTo x y) :
    y = mantissa x * unit x := by
  have hround := roundsTo_mantissa hx
  have htie : |x - y| = |x - mantissa x * unit x| :=
    le_antisymm (h.nearest _ hround.isDouble) (hround.nearest _ h.isDouble)
  obtain ⟨n, rfl⟩ := h.isDouble.eq_mul_unit hx htie.le
  by_cases hn : n = mantissa x
  · rw [hn]
  · obtain ⟨heven, hneighbour, hnear⟩ := even_mantissa_of_tie hn htie
    have hne : (mantissa x * unit x : Rat) ≠ n * unit x := by
      intro heq
      apply hn
      exact_mod_cast mul_right_cancel₀ (unit_pos x).ne' heq.symm
    have hevenn : Even n := by
      rw [← (isCarried_of_abs_sub_le_half hx hnear).hasEvenMantissa_iff]
      exact h.even _ hround.isDouble hne htie.symm
    rw [Int.even_iff] at heven hevenn
    rw [abs_eq zero_le_one] at hneighbour
    omega

end Positive

theorem IsUnboundedDouble.neg {y : Rat} (h : IsUnboundedDouble y) : IsUnboundedDouble (-y) := by
  obtain ⟨m, e, hm, he, rfl⟩ := h
  refine ⟨-m, e, ?_, he, ?_⟩
  · rwa [abs_neg]
  · push_cast
    rw [neg_mul]

theorem HasEvenMantissa.neg {y : Rat} (h : HasEvenMantissa y) : HasEvenMantissa (-y) := by
  obtain ⟨m, e, hcanonical, heven, rfl⟩ := h
  refine ⟨-m, e, ⟨?_, hcanonical.least, ?_⟩, heven.neg, ?_⟩
  · rw [abs_neg]
    exact hcanonical.lt
  · rw [abs_neg]
    exact hcanonical.full
  · push_cast
    rw [neg_mul]

theorem RoundsTo.neg {x y : Rat} (h : RoundsTo x y) : RoundsTo (-x) (-y) := by
  have habs : ∀ z : Rat, |-x - z| = |x - -z| := by
    intro z
    rw [← abs_neg]
    ring_nf
  refine ⟨h.isDouble.neg, fun z hz ↦ ?_, fun z hz hne htie ↦ ?_⟩
  · rw [habs, habs, neg_neg]
    exact h.nearest (-z) hz.neg
  · rw [habs, habs, neg_neg] at htie
    apply (h.even (-z) hz.neg _ htie).neg
    intro heq
    rw [← heq, neg_neg] at hne
    exact hne rfl

theorem isUnboundedDouble_zero : IsUnboundedDouble 0 :=
  ⟨0, leastExponent, by decide, le_rfl, by simp⟩

theorem roundsTo_zero_iff {y : Rat} : RoundsTo 0 y ↔ y = 0 := by
  constructor
  · intro h
    have hnearest := h.nearest 0 isUnboundedDouble_zero
    rw [sub_zero, abs_zero, zero_sub, abs_neg] at hnearest
    exact abs_nonpos_iff.mp hnearest
  · intro heq
    subst heq
    refine ⟨isUnboundedDouble_zero, fun z _ ↦ ?_, fun z _ hne htie ↦ ?_⟩
    · rw [sub_zero, abs_zero]
      exact abs_nonneg _
    · rw [sub_zero, abs_zero, zero_sub, abs_neg, abs_eq_zero] at htie
      exact absurd htie hne

theorem RoundsTo.nonneg {x y : Rat} (h : RoundsTo x y) (hx : 0 ≤ x) : 0 ≤ y := by
  rcases hx.eq_or_lt with rfl | hpos
  · exact (roundsTo_zero_iff.mp h).ge
  · rw [h.eq_mantissa_mul_unit hpos]
    have hmantissa : (0 : Rat) ≤ mantissa x := by exact_mod_cast (isCarried_mantissa hpos).nonneg
    exact mul_nonneg hmantissa (unit_pos x).le

/-- A rational that does not vanish keeps its sign. -/
theorem RoundsTo.pos_iff {x y : Rat} (h : RoundsTo x y) (hy : y ≠ 0) : 0 < x ↔ 0 < y := by
  constructor
  · intro hx
    exact lt_of_le_of_ne (h.nonneg hx.le) hy.symm
  · intro hpos
    by_contra hx
    have hneg := h.neg.nonneg (neg_nonneg.mpr (not_lt.mp hx))
    exact absurd (neg_nonneg.mp hneg) (not_le.mpr hpos)

theorem RoundsTo.ne_zero {x y : Rat} (h : RoundsTo x y) (hy : y ≠ 0) : x ≠ 0 := by
  rintro rfl
  exact hy (roundsTo_zero_iff.mp h)

theorem nearestMagnitude?_eq_some_iff {x y : Rat} (hx : 0 < x) :
    nearestMagnitude? x = some y ↔ RoundsTo x y ∧ |y| < bound := by
  have hnonneg : 0 ≤ mantissa x * unit x := by
    have hmantissa : (0 : Rat) ≤ mantissa x := by exact_mod_cast (isCarried_mantissa hx).nonneg
    exact mul_nonneg hmantissa (unit_pos x).le
  have hdef : nearestMagnitude? x =
      if mantissa x * unit x < bound then some (mantissa x * unit x) else none := rfl
  rw [hdef, Option.ite_none_right_eq_some, Option.some_inj]
  constructor
  · intro h
    obtain ⟨hlt, rfl⟩ := h
    refine ⟨roundsTo_mantissa hx, ?_⟩
    rwa [abs_of_nonneg hnonneg]
  · intro h
    obtain ⟨hround, hlt⟩ := h
    rw [hround.eq_mantissa_mul_unit hx, abs_of_nonneg hnonneg] at hlt
    exact ⟨hlt, (hround.eq_mantissa_mul_unit hx).symm⟩

/-- The computation rounds to nearest, ties to even, and has no result exactly on overflow. -/
theorem nearest?_eq_some_iff {x y : Rat} : nearest? x = some y ↔ RoundsTo x y ∧ |y| < bound := by
  rcases lt_trichotomy x 0 with hx | rfl | hx
  · have hpos : 0 < -x := neg_pos.mpr hx
    have hopposite : nearest? x = some y ↔ nearestMagnitude? (-x) = some (-y) := by
      rw [nearest?, if_pos hx, Option.map_eq_some_iff]
      constructor
      · intro h
        obtain ⟨z, hz, rfl⟩ := h
        rwa [neg_neg]
      · intro h
        exact ⟨-y, h, neg_neg y⟩
    rw [hopposite, nearestMagnitude?_eq_some_iff hpos, abs_neg]
    constructor
    · intro h
      obtain ⟨hround, hlt⟩ := h
      have hneg := hround.neg
      rw [neg_neg, neg_neg] at hneg
      exact ⟨hneg, hlt⟩
    · intro h
      obtain ⟨hround, hlt⟩ := h
      exact ⟨hround.neg, hlt⟩
  · have hbound : |(0 : Rat)| < bound := by
      rw [abs_zero]
      exact zpow_pos (by norm_num) _
    rw [nearest?_zero, Option.some_inj, roundsTo_zero_iff]
    constructor
    · intro heq
      subst heq
      exact ⟨rfl, hbound⟩
    · intro h
      obtain ⟨rfl, -⟩ := h
      rfl
  · rw [nearest?, if_neg (not_lt.mpr hx.le), nearestMagnitude?_eq_some_iff hx]

/-! ## The range of doubles -/

/-- The value is zero, or rounds to a finite double other than zero. -/
def IsInRange (x : Rat) : Prop :=
  x = 0 ∨ ∃ y, RoundsTo x y ∧ |y| < bound ∧ y ≠ 0

theorem requireInRange_eq_ok_iff {x v : Rat} :
    requireInRange x = .ok v ↔ x = v ∧ IsInRange x := by
  unfold requireInRange IsInRange
  by_cases hx : x = 0
  · rw [hx, nearest?_zero]
    simp
  cases hnearest : nearest? x with
  | none =>
    have hnot : ¬ ∃ y, RoundsTo x y ∧ |y| < bound ∧ y ≠ 0 := by
      intro h
      obtain ⟨y, hround, hlt, -⟩ := h
      rw [nearest?_eq_some_iff.mpr ⟨hround, hlt⟩] at hnearest
      exact absurd hnearest (by simp)
    simp [hx, hnot]
  | some y =>
    have hiff : (∃ z, RoundsTo x z ∧ |z| < bound ∧ z ≠ 0) ↔ y ≠ 0 := by
      constructor
      · intro h
        obtain ⟨z, hround, hlt, hne⟩ := h
        rw [nearest?_eq_some_iff.mpr ⟨hround, hlt⟩] at hnearest
        rwa [← Option.some_inj.mp hnearest]
      · intro hne
        have hy := nearest?_eq_some_iff.mp hnearest
        exact ⟨y, hy.1, hy.2, hne⟩
    rw [hiff]
    by_cases hy : y = 0 <;> simp [hx, hy]

/-- A value that is refused is out of range, at one end or the other. -/
theorem of_requireInRange_eq_error {x : Rat} {cause : Rejection}
    (h : requireInRange x = .error cause) :
    ¬ IsInRange x ∧ (cause = .tooLarge ∨ cause = .tooSmall) := by
  constructor
  · intro hrange
    rw [requireInRange_eq_ok_iff.mpr ⟨rfl, hrange⟩] at h
    exact absurd h (by simp)
  · unfold requireInRange at h
    split at h
    · exact Or.inl (Except.error.inj h).symm
    · split_ifs at h
      exact Or.inr (Except.error.inj h).symm

end ExactCalc.Double
