import ExactCalc.Text.Numeral
import Mathlib.Data.List.Induction
import Mathlib.Data.Nat.Digits.Defs
import Mathlib.Tactic.Common

/-!
# Runs of digits and their numbers

The number of a run of digits is the one it has in base ten. As many digits with the same number are
the same digits, and a division by a power of ten cuts digits off on the right.
-/

namespace ExactCalc.Text

/-- The number in base ten, whose lowest digit is the last one. -/
theorem numeralValue_eq_ofDigits (digits : List Char) :
    numeralValue digits =
      Nat.ofDigits 10 (digits.reverse.map fun c ↦ c.toNat - '0'.toNat) := by
  induction digits using List.reverseRecOn with
  | nil => rfl
  | append_singleton digits c ih =>
    rw [numeralValue_concat, ih, List.reverse_append, List.reverse_singleton,
      List.singleton_append, List.map_cons, Nat.ofDigits_cons, Nat.add_comm]

/-- The digits on the left count by their place. -/
theorem numeralValue_append (left right : List Char) :
    numeralValue (left ++ right) = numeralValue left * 10 ^ right.length + numeralValue right := by
  rw [numeralValue, Nat.ofDigitChars_append, Nat.ofDigitChars_eq_ofDigitChars_zero, Nat.mul_comm]
  rfl

/-- Each zero on the right multiplies by ten. -/
theorem numeralValue_append_replicate (digits : List Char) (n : Nat) :
    numeralValue (digits ++ List.replicate n '0') = numeralValue digits * 10 ^ n := by
  rw [numeralValue_append, List.length_replicate]
  simp [numeralValue, Nat.ofDigitChars_replicate_zero]

theorem numeralValue_cons (c : Char) (digits : List Char) :
    numeralValue (c :: digits) = (c.toNat - '0'.toNat) * 10 ^ digits.length + numeralValue digits := by
  rw [← List.singleton_append, numeralValue_append, numeralValue, Nat.ofDigitChars_cons,
    Nat.mul_zero, Nat.zero_add, Nat.ofDigitChars_nil]

theorem numeralValue_lt {digits : List Char} (h : ∀ c ∈ digits, c.isDigit = true) :
    numeralValue digits < 10 ^ digits.length := by
  induction digits with
  | nil => decide
  | cons c digits ih =>
    have hrest := ih fun d hd ↦ h d (List.mem_cons_of_mem c hd)
    have hc : c.toNat ≤ '9'.toNat := (Char.isDigit_iff_toNat.mp (h c List.mem_cons_self)).2
    have hfirst : (c.toNat - '0'.toNat) * 10 ^ digits.length ≤ 9 * 10 ^ digits.length :=
      Nat.mul_le_mul_right _ (Nat.sub_le_sub_right hc _)
    rw [numeralValue_cons, List.length_cons, Nat.pow_succ]
    omega

/-- The digits on the right are cut off by a division. -/
theorem numeralValue_append_div {left right : List Char} (h : ∀ c ∈ right, c.isDigit = true) :
    numeralValue (left ++ right) / 10 ^ right.length = numeralValue left := by
  have hpos : 0 < 10 ^ right.length := Nat.pow_pos (by decide)
  rw [numeralValue_append, Nat.mul_comm, Nat.mul_add_div hpos, Nat.div_eq_of_lt (numeralValue_lt h),
    Nat.add_zero]

/-- As many digits with the same number are the same digits. -/
theorem eq_of_numeralValue_eq {left right : List Char} (hleft : ∀ c ∈ left, c.isDigit = true)
    (hright : ∀ c ∈ right, c.isDigit = true) (hlength : left.length = right.length)
    (h : numeralValue left = numeralValue right) : left = right := by
  induction left generalizing right with
  | nil => exact (List.length_eq_zero_iff.mp hlength.symm).symm
  | cons c left ih =>
    obtain ⟨d, right, rfl⟩ := List.exists_cons_of_length_eq_add_one hlength.symm
    rw [List.forall_mem_cons] at hleft hright
    rw [List.length_cons, List.length_cons, Nat.add_right_cancel_iff] at hlength
    rw [numeralValue_cons, numeralValue_cons, hlength, Nat.mul_comm, Nat.mul_comm (d.toNat - _)] at h
    have hpos : 0 < 10 ^ right.length := Nat.pow_pos (by decide)
    have hleft_lt : numeralValue left < 10 ^ right.length := hlength ▸ numeralValue_lt hleft.2
    have hright_lt := numeralValue_lt hright.2
    have hfirst : c.toNat - '0'.toNat = d.toNat - '0'.toNat := by
      have hquotient := congrArg (· / 10 ^ right.length) h
      simpa only [Nat.mul_add_div hpos, Nat.div_eq_of_lt hleft_lt, Nat.div_eq_of_lt hright_lt,
        Nat.add_zero] using hquotient
    have hchar : c = d := by
      have hc := (Char.isDigit_iff_toNat.mp hleft.1).1
      have hd := (Char.isDigit_iff_toNat.mp hright.1).1
      exact Char.toNat_inj.mp (by omega)
    have hrest : numeralValue left = numeralValue right := by
      rw [hfirst] at h
      exact Nat.add_left_cancel h
    rw [hchar, ih hleft.2 hright.2 hlength hrest]

theorem numeralValue_replicate_zero (n : Nat) : numeralValue (List.replicate n '0') = 0 := by
  rw [← List.nil_append (List.replicate n '0'), numeralValue_append_replicate]
  exact Nat.zero_mul _

/-- Only zeros have the number zero. -/
theorem numeralValue_eq_zero_iff {digits : List Char} (h : ∀ c ∈ digits, c.isDigit = true) :
    numeralValue digits = 0 ↔ ∀ c ∈ digits, c = '0' := by
  constructor
  · intro hzero
    have hreplicate : digits = List.replicate digits.length '0' := by
      refine eq_of_numeralValue_eq h ?_ ?_ ?_
      · intro c hc
        rw [List.eq_of_mem_replicate hc]
        rfl
      · rw [List.length_replicate]
      · rw [hzero, numeralValue_replicate_zero]
    exact (List.eq_replicate_iff.mp hreplicate).2
  · intro hall
    rw [List.eq_replicate_iff.mpr ⟨rfl, hall⟩, numeralValue_replicate_zero]

/-- Digits begin with others exactly when these are left by cutting off the rest. -/
theorem isPrefix_iff_numeralValue_div {left right : List Char}
    (hleft : ∀ c ∈ left, c.isDigit = true) (hright : ∀ c ∈ right, c.isDigit = true)
    (hlength : left.length ≤ right.length) :
    left <+: right ↔
      numeralValue right / 10 ^ (right.length - left.length) = numeralValue left := by
  constructor
  · rintro ⟨tail, rfl⟩
    rw [List.length_append, Nat.add_sub_cancel_left]
    exact numeralValue_append_div fun c hc ↦ hright c (List.mem_append_right left hc)
  · intro h
    have htake : numeralValue (right.take left.length) = numeralValue left := by
      rw [← h, ← List.length_drop, ← numeralValue_append_div, List.take_append_drop]
      exact fun c hc ↦ hright c (List.mem_of_mem_drop hc)
    rw [List.prefix_iff_eq_take]
    refine (eq_of_numeralValue_eq (fun c hc ↦ hright c (List.mem_of_mem_take hc)) hleft ?_ htake).symm
    rw [List.length_take, Nat.min_eq_left hlength]

end ExactCalc.Text
