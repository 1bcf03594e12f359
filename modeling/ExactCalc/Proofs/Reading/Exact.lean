import ExactCalc.Proofs.Infix.Cleaning
import ExactCalc.Proofs.Service.Acceptance

/-!
# Evaluating the exact text of a value

The exact text of a value is not always an expression, since no sign can stand in front of one. With
a zero before it, it always is: the zero makes the first number longer, or is what a negative value
is subtracted from. The expression has the value that was read, so a reading can be fed back.
-/

namespace ExactCalc

open Infix (Derives)

namespace Infix

/-- An expression is written without blanks. -/
theorem Derives.dropBlanks_eq {text : List Char} {tree : Expr} (h : Derives .sum text tree) :
    Text.dropBlanks text = text := by
  obtain ⟨d, rfl, -⟩ := Derivation.derives_iff.mp h
  rw [Text.dropBlanks, List.filter_eq_self]
  intro c hc
  rw [Text.isBlank_of_isExpressionChar (d.isExpressionChar_of_mem_chars hc), Bool.not_false]

end Infix

/-- A text that derives a tree denotes the value of the tree. -/
theorem Denotes.of_derives {text : List Char} {tree : Expr} {v : Rat}
    (hderives : Derives .sum text tree) (hvalue : tree.value? = some v)
    (hrange : Double.IsInRange v) : Denotes text v := by
  refine ⟨tree, ?_, ?_, hvalue, hrange⟩
  · rwa [hderives.dropBlanks_eq]
  · rw [← Expr.value?_eq_none_iff, hvalue]
    simp

namespace Reading

/-- A quotient as an expression, in which a divisor of one is left out. -/
def quotient (n d : Nat) : Expr :=
  if d = 1 then .num n else .binary .div (.num n) (.num d)

/-- The text of a quotient whose dividend is written with the digits. -/
def quotientText (digits : List Char) (d : Nat) : List Char :=
  if d = 1 then digits else digits ++ '/' :: (Text.natText d).toList

theorem derives_digits {digits : List Char} (hne : digits ≠ [])
    (hdigits : ∀ c ∈ digits, c.isDigit = true) :
    Derives .product digits (.num (Text.numeralValue digits)) :=
  .ofFactor (.number hne hdigits)

theorem derives_natText (n : Nat) : Derives .factor (Text.natText n).toList (.num n) := by
  have hnumber : Derives .factor (Text.natText n).toList
      (.num (Text.numeralValue (Text.natText n).toList)) :=
    .number (by simp) fun _ ↦ Text.isDigit_of_mem_natText
  rwa [Text.numeralValue_natText] at hnumber

theorem derives_quotientText {digits : List Char} (hne : digits ≠ [])
    (hdigits : ∀ c ∈ digits, c.isDigit = true) (d : Nat) :
    Derives .product (quotientText digits d) (quotient (Text.numeralValue digits) d) := by
  unfold quotientText quotient
  split
  · exact derives_digits hne hdigits
  · have hdiv : Operator.div.precedence = 2 := rfl
    exact .product hdiv (derives_digits hne hdigits) (derives_natText d)

theorem value?_quotient (n : Nat) {d : Nat} (hd : d ≠ 0) :
    (quotient n d).value? = some ((n : Rat) / d) := by
  unfold quotient
  split
  · next hone => simp [hone]
  · simp [Expr.value?_binary, Operator.combine?, hd]

theorem toList_exact (r : Rat) :
    (exact r).toList =
      (if r.num < 0 then ['-'] else []) ++
        quotientText (Text.natText r.num.natAbs).toList r.den := by
  unfold exact quotientText Text.intText
  split_ifs <;> simp [String.toList_append]

theorem derives_zero_append_exact_of_nonneg {r : Rat} (hr : ¬ r.num < 0) :
    Derives .sum ("0" ++ exact r).toList (quotient r.num.natAbs r.den) := by
  have hdigits : ∀ c ∈ '0' :: (Text.natText r.num.natAbs).toList, c.isDigit = true := by
    intro c hc
    rcases List.mem_cons.mp hc with rfl | hc
    · rfl
    · exact Text.isDigit_of_mem_natText hc
  have hvalue : Text.numeralValue ('0' :: (Text.natText r.num.natAbs).toList) = r.num.natAbs := by
    rw [← List.singleton_append, ← List.replicate_one, Text.numeralValue_replicate_append,
      Text.numeralValue_natText]
  have htext : ("0" ++ exact r).toList =
      quotientText ('0' :: (Text.natText r.num.natAbs).toList) r.den := by
    rw [String.toList_append, toList_exact, if_neg hr]
    unfold quotientText
    split_ifs <;> rfl
  have hderives := derives_quotientText (List.cons_ne_nil _ _) hdigits r.den
  rw [hvalue, ← htext] at hderives
  exact .ofProduct hderives

/-- The sign of a negative value is a subtraction from the zero, looser than the fraction bar. -/
theorem derives_zero_append_exact_of_neg {r : Rat} (hr : r.num < 0) :
    Derives .sum ("0" ++ exact r).toList
      (.binary .sub (.num 0) (quotient r.num.natAbs r.den)) := by
  have htext : ("0" ++ exact r).toList =
      ['0'] ++ '-' :: quotientText (Text.natText r.num.natAbs).toList r.den := by
    rw [String.toList_append, toList_exact, if_pos hr]
    rfl
  have hzero : Derives .sum ['0'] (.num 0) :=
    .ofProduct (derives_digits (by simp) (by simp))
  have hdigits : ∀ c ∈ (Text.natText r.num.natAbs).toList, c.isDigit = true :=
    fun _ ↦ Text.isDigit_of_mem_natText
  have hquotient := derives_quotientText (by simp) hdigits r.den
  rw [Text.numeralValue_natText] at hquotient
  have hsub : Operator.sub.precedence = 1 := rfl
  rw [htext]
  exact .sum hsub hzero hquotient

theorem denotes_zero_append_exact {r : Rat} (hrange : Double.IsInRange r) :
    Denotes ("0" ++ exact r).toList r := by
  have hquotient := value?_quotient r.num.natAbs r.den_nz
  by_cases hr : r.num < 0
  · refine .of_derives (derives_zero_append_exact_of_neg hr) ?_ hrange
    have habs : (r.num.natAbs : Rat) = -r.num := by
      rw [← Int.cast_natCast, Int.ofNat_natAbs_of_nonpos hr.le, Int.cast_neg]
    have hvalue : (0 : Rat) - r.num.natAbs / r.den = r := by
      rw [habs, neg_div, zero_sub, neg_neg, Rat.num_div_den]
    simp only [Expr.value?_binary, Expr.value?_num, hquotient, Option.bind_some,
      Operator.combine?, Int.cast_zero, hvalue]
  · refine .of_derives (derives_zero_append_exact_of_nonneg hr) ?_ hrange
    have habs : (r.num.natAbs : Rat) = r.num := by
      rw [← Int.cast_natCast, Int.natAbs_of_nonneg (not_lt.mp hr)]
    rw [hquotient, habs, Rat.num_div_den]

/-- A value in the range of doubles is what the zero and its exact text evaluate to; so a report on
the exact text of a report has the same readings. -/
theorem evaluate_zero_append_exact :
    (∀ v, Double.requireInRange v = .ok v → (evaluate ("0" ++ exact v)).value = .ok v) ∧
      ∀ text digits report, (evaluateReport text digits).value = .ok report →
        ∃ again, (evaluateReport ("0" ++ report.exact) digits).value = .ok again ∧
          again.exact = report.exact ∧ again.reading = report.reading := by
  have hevaluate : ∀ v, Double.IsInRange v → (evaluate ("0" ++ exact v)).value = .ok v :=
    fun v hrange ↦ value_evaluate_eq_ok_iff.mpr (denotes_zero_append_exact hrange)
  constructor
  · intro v hv
    exact hevaluate v (Double.requireInRange_eq_ok_iff.mp hv).2
  · intro text digits report hreport
    obtain ⟨v, hv⟩ := exists_report_eq_ok_iff.mp ⟨report, hreport⟩
    have hof := Report.isOf_of_evaluate hreport hv
    have hagain : (evaluate ("0" ++ report.exact)).value = .ok v := by
      rw [hof.exact]
      exact hevaluate v (isInRange_of_evaluate_eq_ok hv)
    obtain ⟨again, hreport'⟩ := exists_report_eq_ok_iff.mpr ⟨v, hagain⟩
    have hof' := Report.isOf_of_evaluate hreport' hagain
    refine ⟨again, hreport', ?_, ?_⟩
    · rw [hof'.exact, hof.exact]
    · rw [hof'.reading, hof.reading]

/-- A negative fraction, and the report on a quotient that is one. -/
theorem evaluate_zero_append_negative_fraction :
    Double.requireInRange (-7 / 2) = .ok (-7 / 2) ∧
      (evaluate ("0" ++ exact (-7 / 2))).value = .ok (-7 / 2) ∧
      ∃ again, (evaluateReport ("0" ++ "-7/2") 3).value = .ok again ∧
        again.exact = "-7/2" ∧ again.reading = "-3.500" := by
  have hrange : Double.requireInRange (-7 / 2) = .ok (-7 / 2) := by decide +kernel
  have hreport : (evaluateReport "(1-8)/2" 3).value =
      .ok ⟨"-7/2", "-3.500", ⟨"(1-8)/2", "1 8 - 2 /", Evaluation.note⟩⟩ := by decide +kernel
  have hagain := evaluate_zero_append_exact.2 _ 3 _ hreport
  dsimp only at hagain
  exact ⟨hrange, evaluate_zero_append_exact.1 _ hrange, hagain⟩

end Reading

end ExactCalc
