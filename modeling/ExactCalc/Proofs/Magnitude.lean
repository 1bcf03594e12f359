import ExactCalc.Magnitude
import Mathlib.Algebra.Order.Field.Power
import Mathlib.Algebra.Order.Field.Rat

/-!
# Orders of magnitude

The corrected estimate is the order of magnitude, so a positive rational lies between its greatest
power of two and the next one.
-/

namespace ExactCalc.Magnitude

/-- The power of the base does not exceed the rational, and the next power does. -/
structure IsOrder (base : Nat) (order : Int) (x : Rat) : Prop where
  le : (base : Rat) ^ order ≤ x
  lt : x < (base : Rat) ^ (order + 1)

theorem isOrder_settle {base : Nat} {estimate : Int} {x : Rat}
    (hlower : (base : Rat) ^ (estimate - 1) ≤ x) (hupper : x < (base : Rat) ^ (estimate + 1)) :
    IsOrder base (settle base estimate x) x := by
  unfold settle
  split
  · next hle => exact ⟨hle, hupper⟩
  · next hlt =>
    refine ⟨hlower, ?_⟩
    rw [sub_add_cancel]
    exact lt_of_not_ge hlt

/-- The length of a number in binary gives its order. -/
theorem isOrder_log2 {n : Nat} (hn : n ≠ 0) : IsOrder 2 n.log2 n := by
  constructor
  · rw [zpow_natCast]
    exact_mod_cast Nat.log2_self_le hn
  · rw [← Nat.cast_succ, zpow_natCast]
    exact_mod_cast Nat.lt_log2_self

/-- The lengths of two numbers give the order of their quotient up to one. -/
theorem isOrder_settle_div {base : Nat} (hbase : 0 < base) {m n : Int} {x y : Rat}
    (hx : IsOrder base m x) (hy : IsOrder base n y) :
    IsOrder base (settle base (m - n) (x / y)) (x / y) := by
  have hb : (0 : Rat) < base := by exact_mod_cast hbase
  have hxpos : 0 < x := lt_of_lt_of_le (zpow_pos hb m) hx.le
  have hypos : 0 < y := lt_of_lt_of_le (zpow_pos hb n) hy.le
  apply isOrder_settle
  · calc
      (base : Rat) ^ (m - n - 1) = base ^ m / base ^ (n + 1) := by
        rw [← zpow_sub₀ hb.ne', sub_sub]
      _ ≤ x / y := div_le_div₀ hxpos.le hx.le hypos hy.lt.le
  · calc
      x / y < base ^ (m + 1) / base ^ n := div_lt_div₀ hx.lt hy.le (zpow_pos hb _).le (zpow_pos hb n)
      _ = (base : Rat) ^ (m - n + 1) := by
        rw [← zpow_sub₀ hb.ne', sub_add_eq_add_sub]

theorem isOrder_binary {x : Rat} (hx : 0 < x) : IsOrder 2 (binary x) x := by
  have hnum : x.num.natAbs ≠ 0 := Int.natAbs_ne_zero.mpr (Rat.num_pos.mpr hx).ne'
  have hquotient : (x.num.natAbs : Rat) / x.den = x := by
    have hcast : ((x.num.natAbs : Int) : Rat) = x.num := by
      rw [Int.natAbs_of_nonneg (Rat.num_pos.mpr hx).le]
    rw [← Int.cast_natCast, hcast, Rat.num_div_den]
  have horder := isOrder_settle_div (by decide) (isOrder_log2 hnum) (isOrder_log2 x.den_nz)
  rwa [hquotient] at horder

end ExactCalc.Magnitude
