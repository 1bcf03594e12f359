import ExactCalc.Double.Shortest
import ExactCalc.Proofs.Decimal.Layout
import ExactCalc.Proofs.Double.Rounding
import Mathlib.Algebra.Field.Rat
import Mathlib.Data.Nat.Prime.Basic
import Mathlib.Data.Rat.Lemmas

/-!
# Reading a double back

The decimal that is written for a double rounds to the double. This is asked of every decimal on a
grid before it is taken, and the full expansion is the double itself.
-/

namespace ExactCalc.Double

variable {y : Rat}

/-- A double is its own nearest double. -/
theorem IsUnboundedDouble.nearest?_eq (hy : IsUnboundedDouble y) (hlt : |y| < bound) :
    nearest? y = some y := by
  rw [nearest?_eq_some_iff]
  refine ⟨⟨hy, fun z _ ↦ ?_, fun z _ hne htie ↦ ?_⟩, hlt⟩
  · rw [sub_self, abs_zero]
    exact abs_nonneg _
  · rw [sub_self, abs_zero, abs_eq_zero, sub_eq_zero] at htie
    exact absurd htie.symm hne

theorem IsUnboundedDouble.exists_den_eq (hy : IsUnboundedDouble y) : ∃ k, y.den = 2 ^ k := by
  obtain ⟨m, e, -, -, rfl⟩ := hy
  rcases Int.le_total 0 e with he | he
  · obtain ⟨k, rfl⟩ := Int.eq_ofNat_of_zero_le he
    refine ⟨0, ?_⟩
    have hwhole : (m * 2 ^ (k : Int) : Rat) = ((m * 2 ^ k : Int) : Rat) := by
      push_cast
      rw [zpow_natCast]
    rw [hwhole, Rat.den_intCast, pow_zero]
  · obtain ⟨k, hk⟩ := Int.eq_ofNat_of_zero_le (neg_nonneg.mpr he)
    have hquotient : (m * 2 ^ e : Rat) = (m : Rat) / ((2 ^ k : Int) : Rat) := by
      rw [← neg_neg e, hk, zpow_neg, div_eq_mul_inv]
      push_cast
      rw [zpow_natCast]
    have hdvd : (m * 2 ^ e : Rat).den ∣ 2 ^ k := by
      rw [hquotient]
      exact_mod_cast Rat.den_dvd m (2 ^ k)
    obtain ⟨j, -, hj⟩ := (Nat.dvd_prime_pow Nat.prime_two).mp hdvd
    exact ⟨j, hj⟩

/-- The full expansion of a double is the double. -/
theorem IsUnboundedDouble.toRat_expansion (hy : IsUnboundedDouble y) : (expansion y).toRat = y := by
  obtain ⟨k, hk⟩ := hy.exists_den_eq
  have hlog : y.den.log2 = k := by rw [hk, Nat.log2_two_pow]
  have hten : (10 : Rat) ^ k = 5 ^ k * 2 ^ k := by rw [← mul_pow]; norm_num
  have hden : (y.den : Rat) = 2 ^ k := by exact_mod_cast hk
  rw [expansion, Decimal.toRat, hlog, zpow_neg, zpow_natCast, hten]
  calc
    ((y.num * Nat.pow 5 k : Int) : Rat) * (5 ^ k * 2 ^ k)⁻¹ = y.num / 2 ^ k := by
      have hfive : (5 : Rat) ^ k ≠ 0 := by positivity
      push_cast [Nat.pow_eq]
      rw [mul_inv, ← mul_assoc, mul_inv_cancel_right₀ hfive, div_eq_mul_inv]
    _ = y := by rw [← hden, Rat.num_div_den]

theorem nearest?_toRat_of_onGrid? {exponent : Int} {d : Decimal}
    (h : onGrid? y exponent = some d) : nearest? d.toRat = some y := by
  unfold onGrid? at h
  dsimp only at h
  split at h
  · next hlower hupper =>
    obtain rfl := Option.some.inj h
    unfold nearer
    split_ifs
    · exact of_decide_eq_true hlower
    · exact of_decide_eq_true hupper
    · exact of_decide_eq_true hlower
    · exact of_decide_eq_true hupper
  · next hlower _ =>
    obtain rfl := Option.some.inj h
    exact of_decide_eq_true hlower
  · next _ hupper =>
    obtain rfl := Option.some.inj h
    exact of_decide_eq_true hupper
  · simp at h

theorem nearest?_toRat_shortestMagnitude (hy : IsUnboundedDouble y) (hlt : |y| < bound) :
    nearest? (shortestMagnitude y).toRat = some y := by
  unfold shortestMagnitude
  dsimp only
  cases hfound : (List.range 17).findSome? fun (place : Nat) ↦
      onGrid? y (Magnitude.decimal y - place) with
  | some d =>
    obtain ⟨place, -, hplace⟩ := List.exists_of_findSome?_eq_some hfound
    exact nearest?_toRat_of_onGrid? hplace
  | none => rw [Option.getD_none, hy.toRat_expansion, hy.nearest?_eq hlt]

/-- The decimal written for a double reads back as the double. -/
theorem nearest?_toRat_shortest (hy : IsUnboundedDouble y) (hlt : |y| < bound) :
    nearest? (shortest y).toRat = some y := by
  unfold shortest
  split_ifs with hzero hneg
  · rw [hzero, Decimal.toRat_zero, nearest?_zero]
  · have hmagnitude := nearest?_toRat_shortestMagnitude hy.neg (by rwa [abs_neg])
    rw [Decimal.toRat_negate, nearest?_neg, hmagnitude, Option.map_some, neg_neg]
  · exact nearest?_toRat_shortestMagnitude hy hlt

end ExactCalc.Double
