import ExactCalc.Decimal.Layout
import ExactCalc.Proofs.Decimal.Numeral
import ExactCalc.Proofs.Text.Numeral
import Mathlib.Algebra.Order.Field.Power
import Mathlib.Algebra.Order.Field.Rat
import Mathlib.Tactic.Ring

/-!
# Reading the text of a decimal

The text of a decimal other than zero is a numeral with the value of the decimal, whether it is
written positionally or with an exponent. It always has a point or an exponent, so it is never the
text of a whole number. No other characters than those of numerals are in it.
-/

namespace ExactCalc

namespace Text

/-- The characters that numbers are written with: digits, signs, the point and the mark of an
exponent. -/
def IsNumeralChar (c : Char) : Prop :=
  c.isDigit = true ∨ c ∈ ['+', '-', '.', 'e']

theorem isNumeralChar_of_mem_intText {n : Int} {c : Char} (hc : c ∈ (intText n).toList) :
    IsNumeralChar c := by
  unfold intText at hc
  split at hc
  · rw [String.toList_append] at hc
    rcases List.mem_append.mp hc with hsign | hdigits
    · obtain rfl : c = '-' := by simpa using hsign
      exact .inr (by simp)
    · exact .inl (isDigit_of_mem_natText hdigits)
  · exact .inl (isDigit_of_mem_natText hc)

end Text

namespace Decimal

/-- The value of digits whose first one has the leading exponent. -/
def placed (digits : List Char) (leading : Int) : Rat :=
  Text.numeralValue digits * 10 ^ (leading + 1 - digits.length)

section Notations

variable {digits : List Char}

theorem isDigit_replicate_zero (n : Nat) : ∀ c ∈ List.replicate n '0', c.isDigit = true := by
  intro c hc
  rw [List.eq_of_mem_replicate hc]
  rfl

theorem isDigit_append {left right : List Char} (hleft : ∀ c ∈ left, c.isDigit = true)
    (hright : ∀ c ∈ right, c.isDigit = true) : ∀ c ∈ left ++ right, c.isDigit = true := by
  intro c hc
  rcases List.mem_append.mp hc with hc | hc
  · exact hleft c hc
  · exact hright c hc

/-- Zeros stand between the point and the first digit. -/
theorem readMagnitude?_positional_of_neg (hdigits : ∀ c ∈ digits, c.isDigit = true) {leading : Int}
    (hleading : leading < 0) :
    ∃ d, Numeral.readMagnitude? (positional digits leading) = some d ∧
      d.toRat = placed digits leading := by
  let zeros := (-leading - 1).toNat
  have htext : positional digits leading = ['0'] ++ '.' :: (List.replicate zeros '0' ++ digits) :=
    if_pos hleading
  have hvalue : Text.numeralValue (['0'] ++ (List.replicate zeros '0' ++ digits)) =
      Text.numeralValue digits := by
    rw [← List.append_assoc, List.singleton_append, ← List.replicate_succ,
      Text.numeralValue_replicate_append]
  have hplace : -((List.replicate zeros '0' ++ digits).length : Int) =
      leading + 1 - digits.length := by
    rw [List.length_append, List.length_replicate]
    omega
  rw [htext, Numeral.readMagnitude?_point (by simp) (by simp)
    (isDigit_append (isDigit_replicate_zero zeros) hdigits)]
  refine ⟨_, rfl, ?_⟩
  rw [toRat, placed, hvalue, hplace]
  rfl

/-- Zeros stand between the last digit and the point, and one behind it. -/
theorem readMagnitude?_positional_of_le (hdigits : ∀ c ∈ digits, c.isDigit = true)
    (hne : digits ≠ []) {leading : Int} (hleading : ¬ leading < 0)
    (hlength : digits.length ≤ leading.toNat + 1) :
    ∃ d, Numeral.readMagnitude? (positional digits leading) = some d ∧
      d.toRat = placed digits leading := by
  let zeros := leading.toNat + 1 - digits.length
  have htext : positional digits leading = (digits ++ List.replicate zeros '0') ++ '.' :: ['0'] := by
    rw [positional, if_neg hleading]
    simp [List.take_of_length_le hlength, List.drop_of_length_le hlength, zeros]
  have hvalue : Text.numeralValue (digits ++ List.replicate zeros '0' ++ ['0']) =
      Text.numeralValue digits * 10 ^ (zeros + 1) := by
    rw [List.append_assoc, ← List.replicate_succ', Text.numeralValue_append_replicate]
  have hplace : leading + 1 - digits.length = zeros := by omega
  rw [htext, Numeral.readMagnitude?_point (isDigit_append hdigits (isDigit_replicate_zero zeros))
    (by simp [hne]) (by simp)]
  refine ⟨_, rfl, ?_⟩
  rw [toRat, placed, hplace, hvalue, zpow_natCast, pow_succ]
  push_cast
  rw [List.length_singleton, Nat.cast_one, zpow_neg_one, ← mul_assoc,
    mul_inv_cancel_right₀ (by norm_num)]

/-- The point stands among the digits. -/
theorem readMagnitude?_positional_of_lt (hdigits : ∀ c ∈ digits, c.isDigit = true)
    {leading : Int} (hleading : ¬ leading < 0) (hlength : leading.toNat + 1 < digits.length) :
    ∃ d, Numeral.readMagnitude? (positional digits leading) = some d ∧
      d.toRat = placed digits leading := by
  let whole := leading.toNat + 1
  have hwhole : (digits.take whole).length = whole := by
    rw [List.length_take]
    omega
  have hfraction : (digits.drop whole).length = digits.length - whole := List.length_drop
  have htext : positional digits leading = digits.take whole ++ '.' :: digits.drop whole := by
    have hne : digits.drop whole ≠ [] := List.length_pos_iff.mp (by omega)
    rw [positional, if_neg hleading]
    simp [hne, hwhole, whole]
  have hplace : -((digits.drop whole).length : Int) = leading + 1 - digits.length := by
    rw [hfraction]
    omega
  rw [htext, Numeral.readMagnitude?_point (fun c hc ↦ hdigits c (List.mem_of_mem_take hc))
    (List.length_pos_iff.mp (by omega)) (fun c hc ↦ hdigits c (List.mem_of_mem_drop hc))]
  refine ⟨_, rfl, ?_⟩
  rw [toRat, placed, List.take_append_drop, hplace]
  rfl

theorem readMagnitude?_positional (hdigits : ∀ c ∈ digits, c.isDigit = true) (hne : digits ≠ [])
    (leading : Int) :
    ∃ d, Numeral.readMagnitude? (positional digits leading) = some d ∧
      d.toRat = placed digits leading := by
  by_cases hleading : leading < 0
  · exact readMagnitude?_positional_of_neg hdigits hleading
  · by_cases hlength : digits.length ≤ leading.toNat + 1
    · exact readMagnitude?_positional_of_le hdigits hne hleading hlength
    · exact readMagnitude?_positional_of_lt hdigits hleading (not_le.mp hlength)

theorem scientific_cons (c : Char) (rest : List Char) (leading : Int) :
    scientific (c :: rest) leading =
      [c] ++ ((if rest.isEmpty then [] else '.' :: rest) ++ Numeral.exponentText leading) := by
  simp [scientific, Numeral.exponentText]

theorem readMagnitude?_scientific (hdigits : ∀ c ∈ digits, c.isDigit = true) (hne : digits ≠ [])
    (leading : Int) :
    ∃ d, Numeral.readMagnitude? (scientific digits leading) = some d ∧
      d.toRat = placed digits leading := by
  obtain ⟨c, rest, rfl⟩ := List.exists_cons_of_ne_nil hne
  have hfirst : ∀ d ∈ [c], d.isDigit = true := by simpa using hdigits c (by simp)
  have hrest : ∀ d ∈ rest, d.isDigit = true := fun d hd ↦ hdigits d (by simp [hd])
  rw [scientific_cons]
  by_cases hempty : rest = []
  · have hread := Numeral.readMagnitude?_of_no_point (Numeral.exponentText leading) hfirst
      (by simp) (by simp [Numeral.exponentText])
    rw [Numeral.readTail?_exponentText, Option.map_some] at hread
    refine ⟨_, by simpa [hempty] using hread, ?_⟩
    simp [toRat, placed, hempty]
  · have hread := Numeral.readMagnitude?_of_point (Numeral.exponentText leading) hfirst
      (by simp) hrest (by simp [Numeral.exponentText])
    rw [Numeral.readTail?_exponentText, Option.map_some] at hread
    refine ⟨_, by simpa [hempty] using hread, ?_⟩
    have hplace : leading - rest.length = leading + 1 - (c :: rest).length := by
      rw [List.length_cons]
      omega
    rw [toRat, placed, hplace]
    rfl

theorem isDigit_head?_positional (hdigits : ∀ c ∈ digits, c.isDigit = true) (hne : digits ≠ [])
    (leading : Int) : ∀ c ∈ (positional digits leading).head?, c.isDigit = true := by
  obtain ⟨c, rest, rfl⟩ := List.exists_cons_of_ne_nil hne
  have hfirst : c.isDigit = true := hdigits c (by simp)
  by_cases hleading : leading < 0
  · simp [positional, hleading]
  · simp [positional, hleading, hfirst]

theorem isDigit_head?_scientific (hdigits : ∀ c ∈ digits, c.isDigit = true) (hne : digits ≠ [])
    (leading : Int) : ∀ c ∈ (scientific digits leading).head?, c.isDigit = true := by
  obtain ⟨c, rest, rfl⟩ := List.exists_cons_of_ne_nil hne
  have hfirst : c.isDigit = true := hdigits c (by simp)
  simp [scientific_cons, hfirst]

theorem isNumeralChar_of_mem_positional (hdigits : ∀ c ∈ digits, c.isDigit = true) {leading : Int}
    {c : Char} (hc : c ∈ positional digits leading) : Text.IsNumeralChar c := by
  have hmem : c ∈ digits ∨ c = '0' ∨ c = '.' := by
    unfold positional at hc
    split at hc
    · simp only [List.cons_append, List.mem_cons, List.mem_append, List.mem_replicate] at hc
      tauto
    · simp only [List.mem_append, List.mem_cons, List.mem_replicate] at hc
      rcases hc with (htaken | hzeros) | rfl | hfraction
      · exact .inl (List.mem_of_mem_take htaken)
      · exact .inr (.inl hzeros.2)
      · exact .inr (.inr rfl)
      · split at hfraction
        · exact .inr (.inl (List.mem_singleton.mp hfraction))
        · exact .inl (List.mem_of_mem_drop hfraction)
  rcases hmem with hmem | rfl | rfl
  · exact .inl (hdigits c hmem)
  · exact .inl rfl
  · exact .inr (by simp)

theorem isNumeralChar_of_mem_scientific (hdigits : ∀ c ∈ digits, c.isDigit = true) {leading : Int}
    {c : Char} (hc : c ∈ scientific digits leading) : Text.IsNumeralChar c := by
  simp only [scientific, List.mem_append, List.mem_cons] at hc
  rcases hc with (htaken | hfraction) | rfl | hsign | hexponent
  · exact .inl (hdigits c (List.mem_of_mem_take htaken))
  · split at hfraction
    · simp at hfraction
    · rcases List.mem_cons.mp hfraction with rfl | hfraction
      · exact .inr (by simp)
      · exact .inl (hdigits c (List.mem_of_mem_drop hfraction))
  · exact .inr (by simp)
  · split at hsign <;> exact .inr (by simp [hsign])
  · exact .inl (Text.isDigit_of_mem_natText hexponent)

theorem point_mem_positional (leading : Int) : '.' ∈ positional digits leading := by
  unfold positional
  split <;> simp

theorem mark_mem_scientific (leading : Int) : 'e' ∈ scientific digits leading := by
  simp [scientific]

end Notations

/-! ## Significant digits -/

variable {d : Decimal}

theorem isDigit_of_mem_digits {c : Char} (hc : c ∈ d.digits) : c.isDigit = true :=
  Text.isDigit_of_mem_natText hc

theorem exists_digits_eq (d : Decimal) :
    ∃ n, d.digits = d.significantDigits ++ List.replicate n '0' :=
  Text.exists_dropWhile_reverse_append '0' d.digits

theorem isDigit_of_mem_significantDigits {c : Char} (hc : c ∈ d.significantDigits) :
    c.isDigit = true := by
  obtain ⟨n, hn⟩ := d.exists_digits_eq
  have hmem : c ∈ d.digits := by
    rw [hn]
    exact List.mem_append_left _ hc
  exact isDigit_of_mem_digits hmem

theorem significantDigits_ne_nil (hd : d.coefficient ≠ 0) : d.significantDigits ≠ [] := by
  obtain ⟨n, hn⟩ := d.exists_digits_eq
  intro hnil
  have hvalue : Text.numeralValue d.digits = d.coefficient.natAbs := Text.numeralValue_natText _
  have hzero : Text.numeralValue ([] ++ List.replicate n '0') = 0 := by
    rw [Text.numeralValue_append_replicate]
    simp [Text.numeralValue]
  rw [hn, hnil, hzero] at hvalue
  omega

/-- The zeros at the end are made up for by the place of the first digit. -/
theorem placed_significantDigits (d : Decimal) :
    placed d.significantDigits d.leadingExponent = d.coefficient.natAbs * 10 ^ d.exponent := by
  obtain ⟨n, hn⟩ := d.exists_digits_eq
  have hvalue : Text.numeralValue d.digits = d.coefficient.natAbs := Text.numeralValue_natText _
  have hplace : d.leadingExponent + 1 - d.significantDigits.length = n + d.exponent := by
    rw [leadingExponent, hn, List.length_append, List.length_replicate]
    push_cast
    ring
  rw [hn, Text.numeralValue_append_replicate] at hvalue
  rw [placed, hplace, ← hvalue, zpow_add₀ (by norm_num), zpow_natCast]
  push_cast
  ring

@[simp] theorem toRat_zero (e : Int) : toRat ⟨0, e⟩ = 0 := by
  simp [toRat]

theorem toRat_negate (d : Decimal) : d.negate.toRat = -d.toRat := by
  simp [toRat, negate]

/-- The text of a decimal without its sign. -/
def magnitude (layout : Layout) (d : Decimal) : List Char :=
  if layout.positionalFirst ≤ d.leadingExponent ∧ d.leadingExponent < layout.positionalEnd then
    positional d.significantDigits d.leadingExponent
  else scientific d.significantDigits d.leadingExponent

theorem chars_eq (layout : Layout) (d : Decimal) :
    d.chars layout =
      if d.coefficient < 0 then '-' :: d.magnitude layout else d.magnitude layout := rfl

theorem exists_readMagnitude?_magnitude (layout : Layout) (hd : d.coefficient ≠ 0) :
    ∃ d', Numeral.readMagnitude? (d.magnitude layout) = some d' ∧
      d'.toRat = d.coefficient.natAbs * 10 ^ d.exponent := by
  have hdigits : ∀ c ∈ d.significantDigits, c.isDigit = true :=
    fun _ ↦ isDigit_of_mem_significantDigits
  rw [← placed_significantDigits]
  unfold magnitude
  split
  · exact readMagnitude?_positional hdigits (significantDigits_ne_nil hd) _
  · exact readMagnitude?_scientific hdigits (significantDigits_ne_nil hd) _

theorem isDigit_head?_magnitude (layout : Layout) (hd : d.coefficient ≠ 0) :
    ∀ c ∈ (d.magnitude layout).head?, c.isDigit = true := by
  have hdigits : ∀ c ∈ d.significantDigits, c.isDigit = true :=
    fun _ ↦ isDigit_of_mem_significantDigits
  unfold magnitude
  split
  · exact isDigit_head?_positional hdigits (significantDigits_ne_nil hd) _
  · exact isDigit_head?_scientific hdigits (significantDigits_ne_nil hd) _

/-- The text of a decimal is a numeral of the same value. -/
theorem exists_read?_chars (layout : Layout) (hd : d.coefficient ≠ 0) :
    ∃ d', Numeral.read? (d.chars layout) = some (.finite d') ∧ d'.toRat = d.toRat := by
  obtain ⟨d', hread, hvalue⟩ := exists_readMagnitude?_magnitude layout hd
  have hsigned := Numeral.read?_of_readMagnitude? (isDigit_head?_magnitude layout hd) hread
    (decide (d.coefficient < 0))
  rw [chars_eq]
  by_cases hneg : d.coefficient < 0
  · have habs : (d.coefficient.natAbs : Rat) = -d.coefficient := by
      rw [← Int.cast_natCast, Int.ofNat_natAbs_of_nonpos hneg.le, Int.cast_neg]
    refine ⟨d'.negate, by simpa [hneg] using hsigned, ?_⟩
    rw [toRat_negate, hvalue, habs, toRat, neg_mul, neg_neg]
  · have habs : (d.coefficient.natAbs : Rat) = d.coefficient := by
      rw [← Int.cast_natCast, Int.natAbs_of_nonneg (not_lt.mp hneg)]
    refine ⟨d', by simpa [hneg] using hsigned, ?_⟩
    rw [hvalue, habs, toRat]

theorem isNumeralChar_of_mem_chars (layout : Layout) {c : Char} (hc : c ∈ d.chars layout) :
    Text.IsNumeralChar c := by
  have hdigits : ∀ c ∈ d.significantDigits, c.isDigit = true :=
    fun _ ↦ isDigit_of_mem_significantDigits
  have hmagnitude : ∀ c ∈ d.magnitude layout, Text.IsNumeralChar c := by
    unfold magnitude
    split
    · exact fun _ ↦ isNumeralChar_of_mem_positional hdigits
    · exact fun _ ↦ isNumeralChar_of_mem_scientific hdigits
  rw [chars_eq] at hc
  split at hc
  · rcases List.mem_cons.mp hc with rfl | hc
    · exact .inr (by simp)
    · exact hmagnitude c hc
  · exact hmagnitude c hc

/-- The text of a decimal is never that of a whole number. -/
theorem mark_mem_chars (layout : Layout) (d : Decimal) :
    '.' ∈ d.chars layout ∨ 'e' ∈ d.chars layout := by
  have hmagnitude : '.' ∈ d.magnitude layout ∨ 'e' ∈ d.magnitude layout := by
    unfold magnitude
    split
    · exact .inl (point_mem_positional _)
    · exact .inr (mark_mem_scientific _)
  rw [chars_eq]
  split
  · exact hmagnitude.imp (List.mem_cons_of_mem _) (List.mem_cons_of_mem _)
  · exact hmagnitude

end Decimal

end ExactCalc
