import ExactCalc.Proofs.Infix.Acceptance
import ExactCalc.Proofs.Infix.Scanning

/-!
# Viable prefixes

A text is viable when it begins some word of the grammar. The conversion has the correct-prefix
property: it reads a text without error exactly when the text is viable, since an open derivation can
always be completed, by an operand if one is due and by the parentheses that are still to be closed.

Reading fails at a single character: a number is refused where its first digit is.
-/

namespace ExactCalc.Infix

/-- The text begins a word of the grammar. -/
def IsViable (text : List Char) : Prop :=
  ∃ rest, IsExpression (text ++ rest)

theorem IsViable.of_isPrefix {text text' : List Char} (h : IsViable text') (hfront : text <+: text') :
    IsViable text := by
  obtain ⟨rest, rfl⟩ := hfront
  obtain ⟨tail, h⟩ := h
  rw [List.append_assoc] at h
  exact ⟨rest ++ tail, h⟩

namespace OpenDerivation

/-- Closes the parentheses around a sum, innermost first. -/
def closeAll : List Frame → Derivation .sum → Derivation .sum
  | [], whole => whole
  | outer :: enclosing, whole => closeAll enclosing (outer.sum whole.group)

theorem lexemes_closeAll (enclosing : List Frame) (whole : Derivation .sum) :
    (closeAll enclosing whole).lexemes =
      enclosing.reverse.flatMap (fun frame ↦ frame.lexemes ++ [.opening]) ++ whole.lexemes ++
        List.replicate enclosing.length .closing := by
  induction enclosing generalizing whole with
  | nil => simp [closeAll]
  | cons outer enclosing ih =>
    rw [closeAll, ih]
    simp [Frame.lexemes_sum, Derivation.lexemes, List.replicate_succ]

/-- The operand that is there, or any other. -/
def anyOperand (d : OpenDerivation) : Derivation .factor :=
  d.operand?.getD (.number ['0'] (by simp) (by simp))

theorem isViable_chars (d : OpenDerivation) : IsViable d.chars := by
  let whole := closeAll d.enclosing (d.frame.sum d.anyOperand)
  have hlexemes : ∃ rest, whole.lexemes = d.lexemes ++ rest := by
    simp only [whole, lexemes_closeAll, Frame.lexemes_sum, lexemes]
    cases hoperand : d.operand? with
    | none =>
      refine ⟨d.anyOperand.lexemes ++ List.replicate d.enclosing.length .closing, ?_⟩
      simp
    | some operand =>
      refine ⟨List.replicate d.enclosing.length .closing, ?_⟩
      simp [anyOperand, hoperand]
  obtain ⟨rest, hrest⟩ := hlexemes
  refine ⟨rest.flatMap Lexeme.chars, Derivation.isExpression_iff.mpr ⟨whole, ?_⟩⟩
  rw [Derivation.chars, hrest, List.flatMap_append, chars]

end OpenDerivation

theorem Yard.exists_step_number_iff {yard : Yard} {digits : List Char}
    (hscanned : (Lexeme.number digits).IsScanned) :
    (∃ after, yard.step (.number digits) = .ok after) ↔ yard.awaitsOperand = true := by
  rw [step, number_of_isScanned yard hscanned]
  cases yard.awaitsOperand <;> simp

/-- A number is refused for its place alone. -/
theorem Yard.step_number_eq_error_iff {yard : Yard} {digits : List Char} {cause : Rejection}
    (hscanned : (Lexeme.number digits).IsScanned) :
    yard.step (.number digits) = .error cause ↔
      yard.awaitsOperand = false ∧ cause = .unexpectedOperand yard.position := by
  rw [step, number_of_isScanned yard hscanned]
  cases yard.awaitsOperand <;> simp [eq_comm]

/-- The beginning of a text is read when the whole text is. A number at its end may go on behind it,
but a number is read for its place alone. -/
theorem Yard.exists_run_of_append {text rest : List Char} {yard after : Yard}
    (h : yard.run (Lexeme.scan (text ++ rest)) = .ok after) :
    ∃ middle, yard.run (Lexeme.scan text) = .ok middle := by
  induction text using Lexeme.textInduction generalizing yard with
  | nil => exact ⟨yard, rfl⟩
  | char c text hc ih =>
    rw [List.cons_append, Lexeme.scan_cons_of_not_digit hc, run_cons, Fallible.bind_eq_ok] at h
    obtain ⟨next, hstep, hrun⟩ := h
    obtain ⟨middle, hmiddle⟩ := ih hrun
    refine ⟨middle, ?_⟩
    rw [Lexeme.scan_cons_of_not_digit hc, run_cons, hstep, Fallible.ok_bind, hmiddle]
  | run digits text hne hdigits hends ih =>
    cases text with
    | nil =>
      obtain ⟨more, tail, hscan⟩ := Lexeme.exists_scan_digits_append hne hdigits rest
      rw [List.append_nil, hscan, run_cons, Fallible.bind_eq_ok] at h
      obtain ⟨next, hstep, -⟩ := h
      have hawaits := (number_eq_ok_iff.mp hstep).1
      obtain ⟨middle, hmiddle⟩ := (exists_step_number_iff ⟨hne, hdigits⟩).mpr hawaits
      refine ⟨middle, ?_⟩
      rw [Lexeme.scan_digits_append hne hdigits hends, run_cons, hmiddle]
      rfl
    | cons c text =>
      have hends' : ∀ d ∈ (c :: text ++ rest).head?, d.isDigit = false := hends
      rw [List.append_assoc, Lexeme.scan_digits_append hne hdigits hends', run_cons,
        Fallible.bind_eq_ok] at h
      obtain ⟨next, hstep, hrun⟩ := h
      obtain ⟨middle, hmiddle⟩ := ih hrun
      refine ⟨middle, ?_⟩
      rw [Lexeme.scan_digits_append hne hdigits hends, run_cons, hstep, Fallible.ok_bind, hmiddle]

/-- The correct-prefix property: exactly the viable texts are read without error. -/
theorem isViable_iff {text : List Char} :
    IsViable text ↔ ∃ after, Yard.start.run (Lexeme.scan text) = .ok after := by
  constructor
  · intro h
    obtain ⟨rest, h⟩ := h
    obtain ⟨program, hprogram⟩ := (exists_toPostfix_eq_ok_iff _).mpr h
    obtain ⟨after, hrun, -⟩ := Fallible.bind_eq_ok.mp hprogram
    exact Yard.exists_run_of_append hrun
  · intro h
    obtain ⟨after, hrun⟩ := h
    obtain ⟨d, -, rfl⟩ := OpenDerivation.exists_of_run_scan hrun
    exact d.isViable_chars

/-- Reading fails at one character, and the text before it is read. A number that is refused is so
from its first digit on. -/
theorem Yard.exists_split_of_run_error {text : List Char} {yard : Yard} {cause : Rejection}
    (h : yard.run (Lexeme.scan text) = .error cause) :
    ∃ front c tail after, text = front ++ c :: tail ∧ yard.run (Lexeme.scan front) = .ok after ∧
      after.run (Lexeme.scan [c]) = .error cause ∧
      Lexeme.scan (front ++ [c]) = Lexeme.scan front ++ Lexeme.scan [c] := by
  induction text using Lexeme.textInduction generalizing yard with
  | nil => simp at h
  | char c text hc ih =>
    rw [Lexeme.scan_cons_of_not_digit hc, run_cons, Fallible.bind_eq_error] at h
    rcases h with hstep | ⟨next, hstep, hrun⟩
    · refine ⟨[], c, text, yard, rfl, rfl, ?_, rfl⟩
      rw [Lexeme.scan_cons_of_not_digit hc, run_cons, hstep]
      rfl
    · obtain ⟨front, d, tail, after, rfl, hfront, hd, hscan⟩ := ih hrun
      refine ⟨c :: front, d, tail, after, rfl, ?_, hd, ?_⟩
      · rw [Lexeme.scan_cons_of_not_digit hc, run_cons, hstep, Fallible.ok_bind, hfront]
      · rw [List.cons_append, Lexeme.scan_cons_of_not_digit hc, Lexeme.scan_cons_of_not_digit hc,
          hscan, List.cons_append]
  | run digits text hne hdigits hends ih =>
    rw [Lexeme.scan_digits_append hne hdigits hends, run_cons, Fallible.bind_eq_error] at h
    rcases h with hstep | ⟨next, hstep, hrun⟩
    · cases digits with
      | nil => exact absurd rfl hne
      | cons c digits =>
        have hc : Lexeme.scan [c] = [.number [c]] :=
          Lexeme.scan_singleton_of_digit (hdigits c (by simp))
        have hfirst : (Lexeme.number [c]).IsScanned :=
          ⟨List.cons_ne_nil c [], by simpa using hdigits c (by simp)⟩
        refine ⟨[], c, digits ++ text, yard, rfl, rfl, ?_, rfl⟩
        rw [hc, run_singleton, step_number_eq_error_iff hfirst]
        exact (step_number_eq_error_iff ⟨hne, hdigits⟩).mp hstep
    · obtain ⟨front, d, tail, after, rfl, hfront, hd, hscan⟩ := ih hrun
      have hends₁ : ∀ c ∈ front.head?, c.isDigit = false := by
        cases front with
        | nil => simp
        | cons c front => exact hends
      have hends₂ : ∀ c ∈ (front ++ [d]).head?, c.isDigit = false := by
        cases front with
        | nil => exact hends
        | cons c front => exact hends
      refine ⟨digits ++ front, d, tail, after, by simp, ?_, hd, ?_⟩
      · rw [Lexeme.scan_digits_append hne hdigits hends₁, run_cons, hstep, Fallible.ok_bind, hfront]
      · rw [List.append_assoc, Lexeme.scan_digits_append hne hdigits hends₂,
          Lexeme.scan_digits_append hne hdigits hends₁, hscan, List.cons_append]

end ExactCalc.Infix
