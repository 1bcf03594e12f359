import ExactCalc.Proofs.Decimal.Layout
import ExactCalc.Reading
import Mathlib.Tactic.Positivity

/-!
# The decimal reading

A decimal reading is a sign, digits before a point and as many digits behind it as were asked for.
It is the value of the rational cut off there: the greatest multiple of the last place that does not
exceed the rational in magnitude, with its sign. When nothing is left, the sign is dropped as well.

The reading goes through a whole number, the value in units of the last place. What is written for a
whole number is looked at apart from the way in which it comes from the rational.
-/

namespace ExactCalc

namespace Text

/-- Only zero is written with a zero in front. -/
theorem head?_natText_ne {n : Nat} (hn : n ≠ 0) : (natText n).toList.head? ≠ some '0' := by
  rw [toList_natText]
  induction n using Nat.strong_induction_on with
  | _ n ih =>
    by_cases hsmall : n < 10
    · have hdigits : ∀ k < 10, k ≠ 0 → Nat.digitChar k ≠ '0' := by decide
      rw [Nat.toDigits_of_lt_base hsmall, List.head?_cons, ne_eq, Option.some_inj]
      exact hdigits n hsmall hn
    · rw [Nat.toDigits_of_base_le (by decide) (not_lt.mp hsmall), List.head?_append,
        List.head?_eq_some_head Nat.toDigits_ne_nil, Option.some_or, ← List.head?_eq_some_head]
      exact ih (n / 10) (by omega) (by omega)

theorem length_natText_le {n places : Nat} (hplaces : places ≠ 0) (hn : n < 10 ^ places) :
    (natText n).length ≤ places := by
  rw [← String.length_toList, toList_natText]
  exact (Nat.length_toDigits_le_iff (by decide) (Nat.pos_of_ne_zero hplaces)).mpr hn

/-- Digits that fit into the width fill it when they are padded. -/
theorem length_padZeros {width : Nat} {digits : String} (h : digits.length ≤ width) :
    (padZeros width digits).length = width := by
  simp [padZeros, h]

theorem isDigit_of_mem_padZeros {width n : Nat} {c : Char}
    (hc : c ∈ (padZeros width (natText n)).toList) : c.isDigit = true := by
  rw [padZeros, String.toList_append, String.toList_ofList] at hc
  rcases List.mem_append.mp hc with hc | hc
  · exact Decimal.isDigit_replicate_zero _ c hc
  · exact isDigit_of_mem_natText hc

end Text

namespace Reading

/-- A number in decimal, in its parts. -/
structure FixedPoint where
  negative : Bool
  whole : List Char
  fraction : List Char

namespace FixedPoint

/-- There is no point without digits behind it. -/
def chars (p : FixedPoint) : List Char :=
  (if p.negative then ['-'] else []) ++
    (p.whole ++ if p.fraction = [] then [] else '.' :: p.fraction)

/-- What stands behind the sign. -/
def unsigned (p : FixedPoint) : List Char :=
  p.whole ++ if p.fraction = [] then [] else '.' :: p.fraction

theorem chars_eq (p : FixedPoint) :
    p.chars = if p.negative then '-' :: p.unsigned else p.unsigned := by
  rw [chars]
  cases p.negative <;> rfl

/-- The digits count in units of the last place. -/
def magnitude (p : FixedPoint) : Rat :=
  Text.numeralValue (p.whole ++ p.fraction) / 10 ^ p.fraction.length

def toRat (p : FixedPoint) : Rat :=
  if p.negative then -p.magnitude else p.magnitude

/-- There are digits before the point, a zero in front of them only by itself, and behind the point
as many digits as places. -/
structure HasPlaces (p : FixedPoint) (places : Nat) : Prop where
  whole_ne_nil : p.whole ≠ []
  isDigit_whole : ∀ c ∈ p.whole, c.isDigit = true
  whole_eq_zero : p.whole.head? = some '0' → p.whole = ['0']
  isDigit_fraction : ∀ c ∈ p.fraction, c.isDigit = true
  length_fraction : p.fraction.length = places

/-- As many digits as places for what is left from whole units. -/
def paddedRemainder (m unit places : Nat) : List Char :=
  if places = 0 then []
  else (Text.padZeros places (Text.natText (m % unit))).toList

/-- The digits behind the point of `n / 10 ^ places`. -/
def remainderDigits (n : Int) (places : Nat) : List Char :=
  if places = 0 then []
  else (Text.padZeros places (Text.natText (n.natAbs % 10 ^ places))).toList

/-- The parts of `n / 10 ^ places`. -/
def ofScaled (n : Int) (places : Nat) : FixedPoint where
  negative := n < 0
  whole := (Text.natText (n.natAbs / 10 ^ places)).toList
  fraction := remainderDigits n places

section PaddedRemainder

variable {m unit places : Nat}

/-- Digits that are left over from the unit fit into the places. -/
theorem length_paddedRemainder (hpos : 0 < unit) (hle : unit ≤ 10 ^ places) :
    (paddedRemainder m unit places).length = places := by
  unfold paddedRemainder
  split
  · next hzero => exact hzero.symm
  · next hne =>
    have hlt : m % unit < 10 ^ places := (Nat.mod_lt _ hpos).trans_le hle
    rw [String.length_toList, Text.length_padZeros (Text.length_natText_le hne hlt)]

theorem isDigit_of_mem_paddedRemainder {c : Char} (hc : c ∈ paddedRemainder m unit places) :
    c.isDigit = true := by
  unfold paddedRemainder at hc
  split at hc
  · simp at hc
  · exact Text.isDigit_of_mem_padZeros hc

theorem numeralValue_paddedRemainder (hpos : 0 < unit) (hle : unit ≤ 10 ^ places) :
    Text.numeralValue (paddedRemainder m unit places) = m % unit := by
  unfold paddedRemainder
  split
  · next hzero =>
    have hunit : unit = 1 := le_antisymm (hle.trans_eq (by rw [hzero, Nat.pow_zero])) hpos
    rw [hunit, Nat.mod_one]
    rfl
  · exact Text.numeralValue_padZeros _ _

end PaddedRemainder

theorem length_remainderDigits (n : Int) (places : Nat) :
    (remainderDigits n places).length = places :=
  length_paddedRemainder (by positivity) le_rfl

theorem isDigit_of_mem_remainderDigits {n : Int} {places : Nat} {c : Char}
    (hc : c ∈ remainderDigits n places) : c.isDigit = true :=
  isDigit_of_mem_paddedRemainder hc

theorem numeralValue_remainderDigits (n : Int) (places : Nat) :
    Text.numeralValue (remainderDigits n places) = n.natAbs % 10 ^ places :=
  numeralValue_paddedRemainder (by positivity) le_rfl

theorem hasPlaces_ofScaled (n : Int) (places : Nat) : (ofScaled n places).HasPlaces places where
  whole_ne_nil := by simp [ofScaled]
  isDigit_whole _ := Text.isDigit_of_mem_natText
  whole_eq_zero h := by
    by_cases hzero : n.natAbs / 10 ^ places = 0
    · simp [ofScaled, hzero]
    · exact absurd h (Text.head?_natText_ne hzero)
  isDigit_fraction _ := isDigit_of_mem_remainderDigits
  length_fraction := length_remainderDigits n places

/-- Quotient and remainder put together again are the whole number. -/
theorem numeralValue_ofScaled (n : Int) (places : Nat) :
    Text.numeralValue ((ofScaled n places).whole ++ (ofScaled n places).fraction) = n.natAbs := by
  have hwhole : Text.numeralValue (ofScaled n places).whole = n.natAbs / 10 ^ places :=
    Text.numeralValue_natText _
  have hfraction : (ofScaled n places).fraction = remainderDigits n places := rfl
  rw [Text.numeralValue_append, hwhole, hfraction, length_remainderDigits,
    numeralValue_remainderDigits, Nat.div_add_mod']

theorem magnitude_ofScaled (n : Int) (places : Nat) :
    (ofScaled n places).magnitude = n.natAbs / 10 ^ places := by
  have hlength : (ofScaled n places).fraction.length = places := length_remainderDigits n places
  rw [magnitude, numeralValue_ofScaled, hlength]

theorem toRat_ofScaled (n : Int) (places : Nat) : (ofScaled n places).toRat = n / 10 ^ places := by
  have hnegative : (ofScaled n places).negative = decide (n < 0) := rfl
  rw [toRat, magnitude_ofScaled, hnegative]
  by_cases hn : n < 0
  · have habs : (n.natAbs : Rat) = -n := by
      rw [← Int.cast_natCast, Int.ofNat_natAbs_of_nonpos hn.le, Int.cast_neg]
    rw [decide_eq_true hn, if_pos rfl, habs, neg_div, neg_neg]
  · have habs : (n.natAbs : Rat) = n := by
      rw [← Int.cast_natCast, Int.natAbs_of_nonneg (not_lt.mp hn)]
    rw [decide_eq_false hn, if_neg Bool.false_ne_true, habs]

/-- The sign is that of the value, and zero has none. -/
theorem negative_ofScaled_iff {n : Int} {places : Nat} :
    (ofScaled n places).negative = true ↔ (ofScaled n places).toRat < 0 := by
  have hpos : (0 : Rat) < 10 ^ places := by positivity
  rw [toRat_ofScaled, div_lt_iff₀ hpos, zero_mul, Int.cast_lt_zero]
  exact decide_eq_true_iff

end FixedPoint

/-! ## What is written -/

theorem scale_eq {places : Nat} (h : places < 2 ^ 32) : scale places = 10 ^ places := by
  have hbound : exponentBound = 2 ^ 32 := rfl
  rw [scale, hbound, Nat.mod_eq_of_lt h]
  rfl

/-- The parts that are written, with the power of ten that the program has for the places. -/
def FixedPoint.written (n : Int) (places : Nat) : FixedPoint where
  negative := n < 0
  whole := (Text.natText (n.natAbs / scale places)).toList
  fraction := paddedRemainder n.natAbs (scale places) places

theorem FixedPoint.written_eq_ofScaled {places : Nat} (h : places < 2 ^ 32) (n : Int) :
    written n places = ofScaled n places := by
  rw [written, ofScaled, scale_eq h]
  rfl

theorem scale_pos (places : Nat) : 0 < scale places :=
  Nat.pow_pos (by decide)

theorem scale_le (places : Nat) : scale places ≤ 10 ^ places :=
  Nat.pow_le_pow_right (by decide) (Nat.mod_le _ _)

theorem FixedPoint.length_fraction_written (n : Int) (places : Nat) :
    (written n places).fraction.length = places :=
  length_paddedRemainder (scale_pos places) (scale_le places)

theorem toList_ofScaled_eq_written (n : Int) (places : Nat) :
    (ofScaled n places).toList = (FixedPoint.written n places).chars := by
  have hsign : (if n < 0 then "-" else "").toList = if decide (n < 0) then ['-'] else [] := by
    by_cases hn : n < 0 <;> simp [hn]
  have hnil : (FixedPoint.written n places).fraction = [] ↔ places = 0 := by
    rw [← List.length_eq_zero_iff, FixedPoint.length_fraction_written]
  unfold ofScaled FixedPoint.chars
  simp only [hnil]
  split
  · rw [String.toList_append, hsign, List.append_nil]
    rfl
  · next hne =>
    rw [String.toList_append, String.toList_append, String.toList_append, hsign,
      FixedPoint.written, FixedPoint.paddedRemainder, if_neg hne, List.append_assoc,
      List.append_assoc]
    dsimp only
    rfl

/-- The parts are what is written. -/
theorem toList_ofScaled {places : Nat} (h : places < 2 ^ 32) (n : Int) :
    (ofScaled n places).toList = (FixedPoint.ofScaled n places).chars := by
  rw [toList_ofScaled_eq_written, FixedPoint.written_eq_ofScaled h]

/-- The value cut off behind the places. -/
structure IsTruncation (q r : Rat) (places : Nat) : Prop where
  exists_int : ∃ n : Int, q * 10 ^ places = n
  abs_le : |q| ≤ |r|
  lt_abs_add : |r| < |q| + (10 ^ places)⁻¹
  mul_nonneg : 0 ≤ q * r

theorem scaled_eq {places : Nat} (h : places < 2 ^ 32) (r : Rat) :
    scaled r places = (r.num * 10 ^ places).tdiv r.den := by
  rw [scaled, scale_eq h]
  push_cast
  rfl

theorem tdiv_nonpos {m : Int} (hm : m ≤ 0) (d : Nat) : m.tdiv d ≤ 0 := by
  have hneg : 0 ≤ (-m).tdiv d := Int.tdiv_nonneg (neg_nonneg.mpr hm) (Int.natCast_nonneg d)
  rw [Int.neg_tdiv] at hneg
  exact neg_nonneg.mp hneg

/-- The quotient is that of the magnitudes, with the sign of the dividend. -/
theorem isTruncation_tdiv (r : Rat) (places : Nat) :
    IsTruncation ((r.num * 10 ^ places).tdiv r.den / 10 ^ places) r places := by
  have hpower : (0 : Rat) < 10 ^ places := by positivity
  have hden : (0 : Rat) < r.den := by exact_mod_cast r.den_pos
  obtain ⟨n, hn⟩ : ∃ n, n = (r.num * 10 ^ places).tdiv r.den := ⟨_, rfl⟩
  have hnatAbs : n.natAbs = r.num.natAbs * 10 ^ places / r.den := by
    rw [hn, Int.natAbs_tdiv, Int.natAbs_mul, Int.natAbs_pow]
    rfl
  have hr : |r| = r.num.natAbs / r.den := by
    rw [Rat.abs_def, Rat.divInt_eq_div, Int.cast_natCast, Int.cast_natCast]
  have hq : |(n : Rat) / 10 ^ places| = n.natAbs / 10 ^ places := by
    rw [abs_div, abs_of_pos hpower, Nat.cast_natAbs, Int.cast_abs]
  rw [← hn]
  refine ⟨⟨n, div_mul_cancel₀ _ hpower.ne'⟩, ?_, ?_, ?_⟩
  · rw [hr, hq, div_le_div_iff₀ hpower hden, hnatAbs]
    exact_mod_cast Nat.div_mul_le_self _ _
  · rw [hr, hq, inv_eq_one_div, ← add_div, div_lt_div_iff₀ hden hpower, hnatAbs, add_mul, one_mul]
    exact_mod_cast Nat.lt_div_mul_add r.den_pos
  · have hten : (0 : Int) ≤ 10 ^ places := by positivity
    rcases le_total 0 r.num with hnum | hnum
    · have hnonneg : 0 ≤ n := by
        rw [hn]
        exact Int.tdiv_nonneg (Int.mul_nonneg hnum hten) (Int.natCast_nonneg _)
      exact mul_nonneg (div_nonneg (by exact_mod_cast hnonneg) hpower.le) (Rat.num_nonneg.mp hnum)
    · have hnonpos : n ≤ 0 := by
        rw [hn]
        exact tdiv_nonpos (mul_nonpos_of_nonpos_of_nonneg hnum hten) _
      exact mul_nonneg_of_nonpos_of_nonpos
        (div_nonpos_of_nonpos_of_nonneg (by exact_mod_cast hnonpos) hpower.le)
        (Rat.num_nonpos.mp hnum)

/-- A reading is written with the places asked for, and its value is that of the rational cut off
behind them; there is a sign exactly before a negative value. -/
theorem decimal_writes_truncation (r : Rat) (places : Nat) (h : places < 2 ^ 32) :
    ∃ p : FixedPoint, (decimal r places).toList = p.chars ∧ p.HasPlaces places ∧
      IsTruncation p.toRat r places ∧ (p.negative = true ↔ p.toRat < 0) := by
  refine ⟨.ofScaled (scaled r places) places, toList_ofScaled h _,
    FixedPoint.hasPlaces_ofScaled _ _, ?_, FixedPoint.negative_ofScaled_iff⟩
  rw [FixedPoint.toRat_ofScaled, scaled_eq h]
  exact isTruncation_tdiv r places

/-- A negative value of which nothing is left loses its sign. -/
theorem decimal_writes_truncation_of_vanishing :
    2 < 2 ^ 32 ∧ decimal (-1 / 300) 2 = "0.00" ∧
      ∃ p : FixedPoint, (decimal (-1 / 300) 2).toList = p.chars ∧ p.HasPlaces 2 ∧
        IsTruncation p.toRat (-1 / 300) 2 ∧ (p.negative = true ↔ p.toRat < 0) := by
  refine ⟨by decide, by decide +kernel, ?_⟩
  exact decimal_writes_truncation (-1 / 300) 2 (by decide)

end Reading

end ExactCalc
