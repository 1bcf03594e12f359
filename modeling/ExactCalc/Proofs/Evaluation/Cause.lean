import ExactCalc.Proofs.Evaluation
import ExactCalc.Proofs.Infix.Cleaning
import ExactCalc.Proofs.Infix.Refusal

/-!
# The cause of a refusal

A text may be wrong in several ways at once, and one cause is logged. The causes have a fixed order:
a blank text, a foreign character, a wrong structure, a division by zero, a value out of range. The
first of these that applies is the cause, and each later one presupposes that none before it does.

The remaining causes do not occur. They are those of programs that list no expression, and the
conversion makes no such program. It meets no foreign character either, since cleaning lets none
through, and no invalid number, since each run of digits that it meets is a numeral.
-/

namespace ExactCalc

/-- The structure of the text is wrong. -/
def Rejection.IsStructural : Rejection → Prop
  | .missingOperand _ | .unexpectedOperand _ | .unbalanced => True
  | _ => False

namespace Infix

theorem Lexeme.ofChar_ne_stray {c : Char} (hdigit : c.isDigit = false)
    (hc : isExpressionChar c = true) (d : Char) : Lexeme.ofChar c ≠ .stray d := by
  unfold ofChar
  split_ifs with hopening hclosing
  · simp
  · simp
  · cases hop : Operator.ofSymbol? c with
    | none => simp [isExpressionChar_eq, hdigit, hopening, hclosing, hop] at hc
    | some op => simp

theorem Lexeme.stray_notMem_scan {text : List Char} (h : ∀ c ∈ text, isExpressionChar c = true)
    (d : Char) : Lexeme.stray d ∉ Lexeme.scan text := by
  induction text using Lexeme.textInduction with
  | nil => simp
  | char c rest hc ih =>
    have hrest := ih fun e he ↦ h e (List.mem_cons_of_mem c he)
    have hne := ofChar_ne_stray hc (h c (by simp)) d
    rw [Lexeme.scan_cons_of_not_digit hc, List.mem_cons, not_or]
    exact ⟨hne.symm, hrest⟩
  | run digits rest hne hdigits hends ih =>
    have hrest := ih fun e he ↦ h e (List.mem_append_right digits he)
    rw [Lexeme.scan_digits_append hne hdigits hends, List.mem_cons, not_or]
    exact ⟨by simp, hrest⟩

theorem Yard.isStructural_of_step_error {yard : Yard} {lexeme : Lexeme} {cause : Rejection}
    (hscanned : lexeme.IsScanned) (hstray : ∀ d, lexeme ≠ .stray d)
    (h : yard.step lexeme = .error cause) : cause.IsStructural := by
  rw [Yard.eq_fault_of_step_error hscanned h]
  cases lexeme with
  | number digits => trivial
  | opening => trivial
  | closing =>
    rw [Yard.fault]
    split_ifs <;> trivial
  | operator op => trivial
  | stray c => exact absurd rfl (hstray c)

theorem Yard.isStructural_of_run_error {yard : Yard} {lexemes : List Lexeme} {cause : Rejection}
    (hscanned : ∀ lexeme ∈ lexemes, lexeme.IsScanned) (hstray : ∀ d, Lexeme.stray d ∉ lexemes)
    (h : yard.run lexemes = .error cause) : cause.IsStructural := by
  induction lexemes generalizing yard with
  | nil => simp at h
  | cons lexeme lexemes ih =>
    have hfirst : ∀ d, lexeme ≠ .stray d := fun d heq ↦ hstray d (by simp [heq])
    rw [run_cons, Fallible.bind_eq_error] at h
    rcases h with hstep | ⟨next, -, hrun⟩
    · exact isStructural_of_step_error (hscanned lexeme List.mem_cons_self) hfirst hstep
    · exact ih (fun other hother ↦ hscanned other (List.mem_cons_of_mem lexeme hother))
        (fun d hd ↦ hstray d (List.mem_cons_of_mem lexeme hd)) hrun

theorem Yard.isStructural_of_finish_error {yard : Yard} {cause : Rejection}
    (h : yard.finish = .error cause) : cause.IsStructural := by
  cases hawaits : yard.awaitsOperand <;> cases henclosing : yard.enclosing <;>
    simp [finish, hawaits, henclosing] at h <;> rw [← h] <;> trivial

/-- Nothing but the structure of a text in the alphabet is refused by the conversion. -/
theorem isStructural_of_toPostfix_error {text : List Char} {cause : Rejection}
    (hchars : ∀ c ∈ text, isExpressionChar c = true) (h : toPostfix text = .error cause) :
    cause.IsStructural := by
  rw [toPostfix, Fallible.bind_eq_error] at h
  rcases h with hrun | ⟨after, -, hfinish⟩
  · exact Yard.isStructural_of_run_error (fun _ ↦ Lexeme.isScanned_of_mem_scan)
      (Lexeme.stray_notMem_scan hchars) hrun
  · exact Yard.isStructural_of_finish_error hfinish

theorem not_isExpression_of_toPostfix_error {text : List Char} {cause : Rejection}
    (h : toPostfix text = .error cause) : ¬ IsExpression text := by
  rw [← exists_toPostfix_eq_ok_iff, h]
  simp

end Infix

open Infix (Derives IsExpression IsFirstForeign IsSpelled)

/-! ## The order of the reasons -/

/-- What the cause says of the text, and what the text says of the cause. -/
structure Rejection.IsCauseOf (cause : Rejection) (text : List Char) : Prop where
  blank : cause = .blank ↔ ∀ c ∈ text, Text.isBlank c = true
  foreign : ∀ c, cause = .forbidden c ↔ IsFirstForeign text c
  structural : cause.IsStructural ↔ IsSpelled text ∧ ¬ IsExpression (Text.dropBlanks text)
  division : cause = .divisionByZero ↔
    ∃ tree, Derives .sum (Text.dropBlanks text) tree ∧ tree.HasZeroDivisor
  range : cause = .tooLarge ∨ cause = .tooSmall ↔
    ∃ tree v, Derives .sum (Text.dropBlanks text) tree ∧ tree.value? = some v ∧
      ¬ Double.IsInRange v
  ne_invalidNumber : ∀ digits, cause ≠ .invalidNumber digits
  ne_openingInProgram : cause ≠ .openingInProgram
  ne_emptyStack : cause ≠ .emptyStack
  ne_leftover : ∀ count, cause ≠ .leftover count

theorem Infix.Derives.isSpelled {text : List Char} {tree : Expr}
    (h : Derives .sum (Text.dropBlanks text) tree) : IsSpelled text := by
  obtain ⟨d, hd, -⟩ := Infix.Derivation.derives_iff.mp h
  have hclean : Infix.clean text = .ok d.chars := by
    rw [Infix.clean_eq_ok_iff]
    exact ⟨hd, d.chars_ne_nil, fun c hc ↦ d.isExpressionChar_of_mem_chars hc⟩
  exact Infix.isSpelled_of_clean hclean

namespace Rejection.IsCauseOf

variable {text : List Char} {cause : Rejection} {tree : Expr}

/-- No reason that presupposes a text to read applies to another one. -/
theorem of_not_isSpelled (hspelled : ¬ IsSpelled text)
    (hblank : cause = .blank ↔ ∀ c ∈ text, Text.isBlank c = true)
    (hforeign : ∀ c, cause = .forbidden c ↔ IsFirstForeign text c)
    (hcause : cause = .blank ∨ ∃ c, cause = .forbidden c) : cause.IsCauseOf text := by
  have hdivision : ¬ ∃ tree, Derives .sum (Text.dropBlanks text) tree ∧ tree.HasZeroDivisor :=
    fun ⟨_, hderives, _⟩ ↦ hspelled hderives.isSpelled
  have hrange : ¬ ∃ tree v, Derives .sum (Text.dropBlanks text) tree ∧ tree.value? = some v ∧
      ¬ Double.IsInRange v :=
    fun ⟨_, _, hderives, _⟩ ↦ hspelled hderives.isSpelled
  rcases hcause with rfl | ⟨c, rfl⟩ <;>
    exact ⟨hblank, hforeign, iff_of_false id fun h ↦ hspelled h.1, iff_of_false (by simp) hdivision,
      iff_of_false (by simp) hrange, by simp, by simp, by simp, by simp⟩

theorem of_blank (h : ∀ c ∈ text, Text.isBlank c = true) : IsCauseOf .blank text := by
  apply of_not_isSpelled fun hspelled ↦ hspelled.not_blank h
  · exact iff_of_true rfl h
  · intro c
    exact iff_of_false (by simp) fun hc ↦ hc.not_blank h
  · exact Or.inl rfl

theorem of_foreign {c : Char} (h : IsFirstForeign text c) : IsCauseOf (.forbidden c) text := by
  apply of_not_isSpelled fun hspelled ↦ hspelled.not_isFirstForeign c h
  · exact iff_of_false (by simp) h.not_blank
  · intro d
    constructor
    · intro heq
      rwa [← Rejection.forbidden.inj heq]
    · intro hd
      rw [h.unique hd]
  · exact Or.inr ⟨c, rfl⟩

/-- A text to read is refused for its structure, its division or the range of its value. -/
theorem of_isSpelled (hspelled : IsSpelled text)
    (hcause : cause.IsStructural ∨ cause = .divisionByZero ∨ cause = .tooLarge ∨ cause = .tooSmall)
    (hstructural : cause.IsStructural ↔ ¬ IsExpression (Text.dropBlanks text))
    (hdivision : cause = .divisionByZero ↔
      ∃ tree, Derives .sum (Text.dropBlanks text) tree ∧ tree.HasZeroDivisor)
    (hrange : cause = .tooLarge ∨ cause = .tooSmall ↔
      ∃ tree v, Derives .sum (Text.dropBlanks text) tree ∧ tree.value? = some v ∧
        ¬ Double.IsInRange v) : cause.IsCauseOf text := by
  have hne : ∀ other : Rejection,
      ¬ (other.IsStructural ∨ other = .divisionByZero ∨ other = .tooLarge ∨ other = .tooSmall) →
        cause ≠ other := by
    intro other hother heq
    exact hother (heq ▸ hcause)
  exact {
    blank := iff_of_false (hne _ (by simp [IsStructural])) hspelled.not_blank
    foreign := fun c ↦
      iff_of_false (hne _ (by simp [IsStructural])) (hspelled.not_isFirstForeign c)
    structural := by rw [hstructural, and_iff_right hspelled]
    division := hdivision
    range := hrange
    ne_invalidNumber := fun _ ↦ hne _ (by simp [IsStructural])
    ne_openingInProgram := hne _ (by simp [IsStructural])
    ne_emptyStack := hne _ (by simp [IsStructural])
    ne_leftover := fun _ ↦ hne _ (by simp [IsStructural]) }

theorem of_structural (hspelled : IsSpelled text) (hnot : ¬ IsExpression (Text.dropBlanks text))
    (hcause : cause.IsStructural) : cause.IsCauseOf text := by
  have hderives : ∀ tree, ¬ Derives .sum (Text.dropBlanks text) tree := fun tree h ↦ hnot ⟨tree, h⟩
  have hne : ∀ other : Rejection, ¬ other.IsStructural → cause ≠ other := by
    intro other hother heq
    exact hother (heq ▸ hcause)
  apply of_isSpelled hspelled (Or.inl hcause)
  · exact iff_of_true hcause hnot
  · exact iff_of_false (hne _ id) fun ⟨tree, h, _⟩ ↦ hderives tree h
  · exact iff_of_false (not_or.mpr ⟨hne _ id, hne _ id⟩) fun ⟨tree, _, h, _⟩ ↦ hderives tree h

theorem of_division (hderives : Derives .sum (Text.dropBlanks text) tree)
    (hzero : tree.HasZeroDivisor) : IsCauseOf .divisionByZero text := by
  apply of_isSpelled hderives.isSpelled (by simp)
  · exact iff_of_false id (not_not.mpr ⟨tree, hderives⟩)
  · exact iff_of_true rfl ⟨tree, hderives, hzero⟩
  · apply iff_of_false (by simp)
    rintro ⟨other, v, hother, hvalue, -⟩
    rw [hother.tree_eq hderives, Expr.value?_eq_none_iff.mpr hzero] at hvalue
    contradiction

theorem of_range {v : Rat} (hderives : Derives .sum (Text.dropBlanks text) tree)
    (hvalue : tree.value? = some v) (hout : ¬ Double.IsInRange v)
    (hcause : cause = .tooLarge ∨ cause = .tooSmall) : cause.IsCauseOf text := by
  apply of_isSpelled hderives.isSpelled (Or.inr (Or.inr hcause))
  · apply iff_of_false _ (not_not.mpr ⟨tree, hderives⟩)
    rcases hcause with rfl | rfl <;> exact id
  · apply iff_of_false
    · rcases hcause with rfl | rfl <;> simp
    · rintro ⟨other, hother, hzero⟩
      rw [hother.tree_eq hderives, ← Expr.value?_eq_none_iff, hvalue] at hzero
      contradiction
  · exact iff_of_true hcause ⟨tree, v, hderives, hvalue, hout⟩

end Rejection.IsCauseOf

/-- Each stage refuses for a reason of its own. -/
theorem Evaluation.isCauseOf_of_ofText_error {text : String} {cause : Rejection}
    (h : ofText text = .error cause) : cause.IsCauseOf text.toList := by
  rw [ofText, Fallible.bind_eq_error] at h
  rcases h with hclean | ⟨cleaned, hclean, h⟩
  · rcases Infix.clean_eq_error_iff.mp hclean with ⟨hblank, rfl⟩ | ⟨c, hc, rfl⟩
    · exact .of_blank hblank
    · exact .of_foreign hc
  have hspelled := Infix.isSpelled_of_clean hclean
  obtain ⟨rfl, -, hchars⟩ := Infix.clean_eq_ok_iff.mp hclean
  rw [Fallible.bind_eq_error] at h
  rcases h with hpostfix | ⟨program, hpostfix, h⟩
  · exact .of_structural hspelled (Infix.not_isExpression_of_toPostfix_error hpostfix)
      (Infix.isStructural_of_toPostfix_error hchars hpostfix)
  obtain ⟨d, hd, rfl⟩ := Infix.toPostfix_eq_ok_iff.mp hpostfix
  have hderives : Derives .sum (Text.dropBlanks text.toList) d.tree := hd ▸ d.derives
  rw [Fallible.bind_eq_error] at h
  rcases h with hevaluate | ⟨v, hevaluate, h⟩
  · obtain ⟨hzero, rfl⟩ := Expr.evaluate_postOrder_eq_error_iff.mp hevaluate
    exact .of_division hderives hzero
  rw [Fallible.bind_eq_error] at h
  rcases h with hrange | ⟨_, -, h⟩
  · obtain ⟨hout, hcause⟩ := Double.of_requireInRange_eq_error hrange
    exact .of_range hderives (Expr.evaluate_postOrder_eq_ok_iff.mp hevaluate) hout hcause
  · exact absurd h (by simp [pure, Except.pure])

/-- Both evaluations are refused together, with the cause that the text has. -/
theorem exists_cause_of_refused {text : String} {digits : Nat}
    (h : (evaluate text).value = .error .invalidExpression ∨
      (evaluateReport text digits).value = .error .invalidExpression) :
    ∃ cause : Rejection, Evaluation.ofText text = .error cause := by
  cases hof : Evaluation.ofText text with
  | error cause => exact ⟨cause, rfl⟩
  | ok evaluation => simp [evaluate, evaluateReport, hof, hideCause, Except.map] at h

/-- A refused text is logged with one cause, which is the first of the reasons that applies to it. The
conversion adds no foreign character to those that cleaning finds. -/
theorem refusal_logs_first_reason (text : String) (digits : Nat)
    (h : (evaluate text).value = .error .invalidExpression ∨
      (evaluateReport text digits).value = .error .invalidExpression) :
    (∃ cause : Rejection,
      (evaluate text).events = [.expressionRejected text cause] ∧
      (evaluateReport text digits).events = [.expressionRejected text cause] ∧
      cause.IsCauseOf text.toList) ∧
    ∀ cleaned, Infix.clean text.toList = .ok cleaned →
      ∀ c, Infix.toPostfix cleaned ≠ .error (.forbidden c) := by
  obtain ⟨cause, hof⟩ := exists_cause_of_refused h
  refine ⟨⟨cause, ?_, ?_, Evaluation.isCauseOf_of_ofText_error hof⟩, ?_⟩
  · rw [evaluate, hof]
    rfl
  · rw [evaluateReport, hof]
    rfl
  · intro cleaned hclean c hpostfix
    have hchars := (Infix.clean_eq_ok_iff.mp hclean).2.2
    exact Infix.isStructural_of_toPostfix_error hchars hpostfix

/-- A division by zero, in a product with zero. -/
theorem refusal_logs_first_reason_division :
    let text := "0 * (7/(2-02))"
    (evaluate text).value = .error .invalidExpression ∧
    (∃ cause : Rejection,
      (evaluate text).events = [.expressionRejected text cause] ∧
      (evaluateReport text 3).events = [.expressionRejected text cause] ∧
      cause.IsCauseOf text.toList) ∧
    ∀ cleaned, Infix.clean text.toList = .ok cleaned →
      ∀ c, Infix.toPostfix cleaned ≠ .error (.forbidden c) := by
  have hrefused : (evaluate "0 * (7/(2-02))").value = .error .invalidExpression := by
    decide +kernel
  exact ⟨hrefused, refusal_logs_first_reason _ 3 (Or.inl hrefused)⟩

end ExactCalc
