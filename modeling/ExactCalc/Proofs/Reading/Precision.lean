import ExactCalc.Proofs.Reading.Decimal
import Mathlib.Tactic.Common

/-!
# Readings with more and fewer digits

Two readings of one rational should not contradict each other: the one with more digits goes on where
the other one stops. Both come from divisions of their own, but as each of them cuts its quotient
off, the digits of the shorter reading are the first ones of the longer.

This needs the powers of ten that belong to the numbers of digits. The exponent of a power takes the
number of digits modulo `2 ^ 32`, while the digits are padded to their full number, so from `2 ^ 32`
on a reading puts zeros behind its point before its first digit. It then goes on from a reading with
fewer digits only by chance: if both numbers of digits are in the same range, or if there are only
zeros behind the point of the shorter reading.
-/

namespace ExactCalc

namespace Reading

/-- A text without the minus sign in front of it. -/
def dropSign : List Char → List Char
  | '-' :: rest => rest
  | text => text

theorem dropSign_of_head?_ne {text : List Char} (h : text.head? ≠ some '-') :
    dropSign text = text := by
  unfold dropSign
  split
  · exact absurd rfl h
  · rfl

/-- The text behind the point. -/
def behindPoint (text : List Char) : List Char :=
  (text.dropWhile (· ≠ '.')).drop 1

namespace FixedPoint

variable {p : FixedPoint}

theorem ne_of_isDigit {c d : Char} (hc : c.isDigit = true) (hd : d.isDigit = false) : c ≠ d := by
  rintro rfl
  exact Bool.false_ne_true (hd.symm.trans hc)

/-- Behind the sign, no other sign stands in front. -/
theorem head?_unsigned_ne (h : ∀ c ∈ p.whole, c.isDigit = true) : p.unsigned.head? ≠ some '-' := by
  rw [unsigned]
  cases hwhole : p.whole with
  | nil => split <;> simp
  | cons c whole =>
    have hc : c.isDigit = true := h c (hwhole ▸ List.mem_cons_self)
    simpa using ne_of_isDigit hc (by decide)

theorem head?_chars_iff (h : ∀ c ∈ p.whole, c.isDigit = true) :
    p.chars.head? = some '-' ↔ p.negative = true := by
  rw [chars_eq]
  cases p.negative with
  | true => simp
  | false => simpa using head?_unsigned_ne h

theorem dropSign_chars (h : ∀ c ∈ p.whole, c.isDigit = true) : dropSign p.chars = p.unsigned := by
  rw [chars_eq]
  cases p.negative with
  | true => rfl
  | false => exact dropSign_of_head?_ne (head?_unsigned_ne h)

theorem behindPoint_chars (h : ∀ c ∈ p.whole, c.isDigit = true) :
    behindPoint p.chars = p.fraction := by
  have hsigned : ∀ c ∈ (if p.negative then ['-'] else []) ++ p.whole, c ≠ '.' := by
    intro c hc
    rcases List.mem_append.mp hc with hsign | hdigits
    · obtain rfl : c = '-' := List.eq_of_mem_singleton (List.mem_ite_nil_right.mp hsign).2
      decide
    · exact ne_of_isDigit (h c hdigits) (by decide)
  have hdrop : p.chars.dropWhile (· ≠ '.') =
      (if p.fraction = [] then [] else '.' :: p.fraction).dropWhile (· ≠ '.') := by
    rw [chars, ← List.append_assoc, List.dropWhile_append_of_pos]
    simpa using hsigned
  rw [behindPoint, hdrop]
  split
  · next hnil => exact hnil.symm
  · rfl

end FixedPoint

/-- Without their signs, the reading with more places is the one with fewer places and more digits
behind it, with a point between them if there is none yet; a sign of the latter is one of the
former. -/
structure Continues (r : Rat) (places places' : Nat) : Prop where
  exists_digits : ∃ tail : List Char, tail.length = places' - places ∧
    (∀ c ∈ tail, c.isDigit = true) ∧
    dropSign (decimal r places').toList = dropSign (decimal r places).toList ++
      if places = 0 ∧ places' ≠ 0 then '.' :: tail else tail
  sign : (decimal r places).toList.head? = some '-' → (decimal r places').toList.head? = some '-'

/-- The parts of a reading. -/
def parts (r : Rat) (places : Nat) : FixedPoint :=
  .written (scaled r places) places

section Parts

variable (r : Rat) (places : Nat)

theorem toList_decimal : (decimal r places).toList = (parts r places).chars :=
  toList_ofScaled_eq_written _ _

theorem natAbs_scaled : (scaled r places).natAbs = r.num.natAbs * scale places / r.den := by
  rw [scaled, Int.natAbs_tdiv, Int.natAbs_mul]
  rfl

/-- What stands before the point does not depend on the places. -/
theorem div_scale_natAbs_scaled :
    (scaled r places).natAbs / scale places = r.num.natAbs / r.den := by
  rw [natAbs_scaled, Nat.div_div_eq_div_mul, Nat.mul_comm r.den, ← Nat.div_div_eq_div_mul,
    Nat.mul_div_cancel _ (scale_pos places)]

theorem whole_parts : (parts r places).whole = (Text.natText (r.num.natAbs / r.den)).toList := by
  rw [parts, FixedPoint.written, div_scale_natAbs_scaled]

theorem length_fraction_parts : (parts r places).fraction.length = places :=
  FixedPoint.length_fraction_written _ _

theorem fraction_parts_zero : (parts r 0).fraction = [] := rfl

theorem isDigit_fraction_parts : ∀ c ∈ (parts r places).fraction, c.isDigit = true :=
  fun _ ↦ FixedPoint.isDigit_of_mem_paddedRemainder

theorem isDigit_whole_parts : ∀ c ∈ (parts r places).whole, c.isDigit = true :=
  fun _ ↦ Text.isDigit_of_mem_natText

/-- The number of the digits behind the point. -/
def fractionValue : Nat :=
  (scaled r places).natAbs % scale places

theorem numeralValue_fraction_parts :
    Text.numeralValue (parts r places).fraction = fractionValue r places :=
  FixedPoint.numeralValue_paddedRemainder (scale_pos places) (scale_le places)

theorem fractionValue_lt : fractionValue r places < scale places :=
  Nat.mod_lt _ (scale_pos places)

theorem behindPoint_decimal : behindPoint (decimal r places).toList = (parts r places).fraction := by
  rw [toList_decimal]
  exact FixedPoint.behindPoint_chars (isDigit_whole_parts r places)

theorem dropSign_decimal :
    dropSign (decimal r places).toList =
      (parts r places).whole ++ if places = 0 then [] else '.' :: (parts r places).fraction := by
  rw [toList_decimal, FixedPoint.dropSign_chars (isDigit_whole_parts r places), FixedPoint.unsigned]
  simp only [← List.length_eq_zero_iff, length_fraction_parts]

/-- A sign needs a negative rational of which something is left. -/
theorem head?_decimal_iff :
    (decimal r places).toList.head? = some '-' ↔ r.num < 0 ∧ (scaled r places).natAbs ≠ 0 := by
  rw [toList_decimal, FixedPoint.head?_chars_iff (isDigit_whole_parts r places)]
  have hscale : (0 : Int) ≤ scale places := Int.natCast_nonneg _
  have hnegative : (parts r places).negative = true ↔ scaled r places < 0 := decide_eq_true_iff
  rw [hnegative, Int.natAbs_ne_zero]
  constructor
  · intro h
    refine ⟨?_, h.ne⟩
    by_contra hnum
    have hnonneg : 0 ≤ scaled r places :=
      Int.tdiv_nonneg (Int.mul_nonneg (not_lt.mp hnum) hscale) (Int.natCast_nonneg _)
    exact absurd h (not_lt.mpr hnonneg)
  · rintro ⟨hnum, hne⟩
    have hnonpos : scaled r places ≤ 0 :=
      tdiv_nonpos (mul_nonpos_of_nonpos_of_nonneg hnum.le hscale) _
    exact lt_of_le_of_ne hnonpos hne

end Parts

section Continues

variable {r : Rat} {places places' : Nat}

/-- The longer reading has more digits behind the shorter one exactly if it has them behind the
point. -/
theorem dropSign_decimal_append_iff (h : places ≤ places') (tail : List Char) :
    (dropSign (decimal r places').toList = dropSign (decimal r places).toList ++
      if places = 0 ∧ places' ≠ 0 then '.' :: tail else tail) ↔
    (parts r places').fraction = (parts r places).fraction ++ tail := by
  have hwhole : (parts r places').whole = (parts r places).whole := by
    rw [whole_parts, whole_parts]
  rw [dropSign_decimal, dropSign_decimal, hwhole, List.append_assoc, List.append_cancel_left_eq]
  rcases eq_or_ne places 0 with rfl | hplaces
  · rcases eq_or_ne places' 0 with rfl | hplaces'
    · simp [fraction_parts_zero]
    · simp [fraction_parts_zero, hplaces']
  · have hplaces' : places' ≠ 0 := by omega
    simp [hplaces, hplaces']

/-- If something is left of the shorter reading, something is left of the longer one. -/
theorem natAbs_scaled_ne_zero
    (h : fractionValue r places' / 10 ^ (places' - places) = fractionValue r places)
    (hne : (scaled r places).natAbs ≠ 0) : (scaled r places').natAbs ≠ 0 := by
  contrapose! hne
  have hwhole : (scaled r places).natAbs / scale places = 0 := by
    rw [div_scale_natAbs_scaled, ← div_scale_natAbs_scaled r places', hne, Nat.zero_div]
  have hfraction : (scaled r places).natAbs % scale places = 0 := by
    rw [← fractionValue, ← h, fractionValue, hne, Nat.zero_mod, Nat.zero_div]
  rw [← Nat.div_add_mod (scaled r places).natAbs (scale places), hwhole, hfraction, Nat.mul_zero]

/-- The digits of the shorter reading have to be the first ones behind the point of the longer
one. -/
theorem continues_iff (h : places ≤ places') :
    Continues r places places' ↔
      fractionValue r places' / 10 ^ (places' - places) = fractionValue r places := by
  have hlength : (parts r places').fraction.length - (parts r places).fraction.length =
      places' - places := by
    rw [length_fraction_parts, length_fraction_parts]
  have hfirst : (parts r places).fraction <+: (parts r places').fraction ↔
      fractionValue r places' / 10 ^ (places' - places) = fractionValue r places := by
    rw [Text.isPrefix_iff_numeralValue_div (isDigit_fraction_parts r places)
      (isDigit_fraction_parts r places'), hlength, numeralValue_fraction_parts,
      numeralValue_fraction_parts]
    rwa [length_fraction_parts, length_fraction_parts]
  rw [← hfirst]
  constructor
  · rintro ⟨⟨tail, -, -, htail⟩, -⟩
    exact ⟨tail, ((dropSign_decimal_append_iff h tail).mp htail).symm⟩
  · intro hfraction
    obtain ⟨tail, htail⟩ := hfraction
    refine ⟨⟨tail, ?_, ?_, (dropSign_decimal_append_iff h tail).mpr htail.symm⟩, ?_⟩
    · rw [← hlength, ← htail, List.length_append, Nat.add_sub_cancel_left]
    · exact fun c hc ↦ isDigit_fraction_parts r places' c (htail ▸ List.mem_append_right _ hc)
    · rw [head?_decimal_iff, head?_decimal_iff]
      exact fun hsign ↦ ⟨hsign.1, natAbs_scaled_ne_zero (hfirst.mp ⟨tail, htail⟩) hsign.2⟩

end Continues

/-! ## Ranges of places -/

section Ranges

variable {r : Rat} {places places' : Nat}

/-- In one range the powers of ten differ by that of the additional places. -/
theorem scale_of_div_eq (h : places ≤ places') (hrange : places / 2 ^ 32 = places' / 2 ^ 32) :
    scale places' = 10 ^ (places' - places) * scale places := by
  have hmod : places' % exponentBound = places' - places + places % exponentBound := by
    have hbound : exponentBound = 2 ^ 32 := rfl
    rw [hbound]
    omega
  have hpow : scale places' = 10 ^ (places' % exponentBound) := rfl
  rw [hpow, hmod, Nat.pow_add]
  rfl

/-- Beyond its range a reading has more additional places than its power of ten. -/
theorem scale_le_of_div_ne (h : places ≤ places') (hrange : places / 2 ^ 32 ≠ places' / 2 ^ 32) :
    scale places' ≤ 10 ^ (places' - places) := by
  refine Nat.pow_le_pow_right (by decide) ?_
  have hbound : exponentBound = 2 ^ 32 := rfl
  rw [hbound]
  omega

theorem fractionValue_div_of_div_eq (h : places ≤ places')
    (hrange : places / 2 ^ 32 = places' / 2 ^ 32) :
    fractionValue r places' / 10 ^ (places' - places) = fractionValue r places := by
  have hpos : 0 < 10 ^ (places' - places) := Nat.pow_pos (by decide)
  have hquotient : r.num.natAbs * (10 ^ (places' - places) * scale places) / r.den /
      10 ^ (places' - places) = r.num.natAbs * scale places / r.den := by
    rw [Nat.div_div_eq_div_mul, Nat.mul_comm r.den, Nat.mul_left_comm,
      Nat.mul_div_mul_left _ _ hpos]
  rw [fractionValue, natAbs_scaled, scale_of_div_eq h hrange, Nat.mod_mul_right_div_self, hquotient,
    fractionValue, natAbs_scaled]

theorem fractionValue_div_of_div_ne (h : places ≤ places')
    (hrange : places / 2 ^ 32 ≠ places' / 2 ^ 32) :
    fractionValue r places' / 10 ^ (places' - places) = 0 :=
  Nat.div_eq_of_lt ((fractionValue_lt r places').trans_le (scale_le_of_div_ne h hrange))

/-- A reading with more places goes on from one with fewer exactly if both numbers of places are in
the same range of `2 ^ 32`, or if only zeros stand behind the point of the one with fewer. -/
theorem decimal_continues_iff (r : Rat) (places places' : Nat) (h : places ≤ places') :
    Continues r places places' ↔ places / 2 ^ 32 = places' / 2 ^ 32 ∨
      ∀ c ∈ behindPoint (decimal r places).toList, c = '0' := by
  rw [continues_iff h, behindPoint_decimal,
    ← Text.numeralValue_eq_zero_iff (isDigit_fraction_parts r places), numeralValue_fraction_parts]
  by_cases hrange : places / 2 ^ 32 = places' / 2 ^ 32
  · exact iff_of_true (fractionValue_div_of_div_eq h hrange) (.inl hrange)
  · rw [fractionValue_div_of_div_ne h hrange, or_iff_right hrange, eq_comm]

/-- A sign that only the longer reading has. -/
theorem decimal_continues_iff_vanishing_sign :
    1 ≤ 3 ∧ decimal (-1 / 300) 1 = "0.0" ∧ decimal (-1 / 300) 3 = "-0.003" ∧
      Continues (-1 / 300) 1 3 := by
  refine ⟨by decide, by decide +kernel, by decide +kernel, ?_⟩
  exact (decimal_continues_iff (-1 / 300) 1 3 (by decide)).mpr (.inl (by decide))

/-- A third has its first digit behind the point, but only zeros are written there when `2 ^ 32`
digits are asked for. -/
theorem third_not_continued :
    1 ≤ 2 ^ 32 ∧ (∀ c ∈ behindPoint (decimal (1 / 3) (2 ^ 32)).toList, c = '0') ∧
      decimal (1 / 3) 1 = "0.3" ∧ ¬ Continues (1 / 3) 1 (2 ^ 32) := by
  refine ⟨by decide, ?_, by decide +kernel, fun hcontinues ↦ ?_⟩
  · have hscale : scale (2 ^ 32) = 1 := by decide +kernel
    rw [behindPoint_decimal, ← Text.numeralValue_eq_zero_iff (isDigit_fraction_parts _ _),
      numeralValue_fraction_parts, fractionValue, hscale, Nat.mod_one]
  · have hvalue : fractionValue (1 / 3) 1 = 3 := by decide +kernel
    have hdigit := (continues_iff (by decide)).mp hcontinues
    rw [fractionValue_div_of_div_ne (by decide) (by decide), hvalue] at hdigit
    exact absurd hdigit (by decide)

end Ranges

end Reading

end ExactCalc
