import ExactCalc.Proofs.Infix.Placement
import Mathlib.Order.Bounds.Defs

/-!
# Why a text is refused

A refused text is refused at the first place where no expression goes on, which is behind its longest
viable beginning. The character at that place decides the cause, together with the one before it; at
the end of the text the last character alone does.
-/

namespace ExactCalc.Infix

/-- The cause for which a text is refused at a place, or at its end. -/
def faultAt (text : List Char) (k : Nat) : Rejection :=
  match text[k]? with
  | some c =>
    if !isExpressionChar c then .forbidden c
    else if c.isDigit || c = '(' then .unexpectedOperand k
    else if c = ')' && !awaitsOperand (text.take k) then .unbalanced
    else .missingOperand k
  | none => if awaitsOperand (text.take k) then .missingOperand k else .unbalanced

theorem faultAt_append (text : List Char) (c : Char) (tail : List Char) :
    faultAt (text ++ c :: tail) text.length =
      if !isExpressionChar c then .forbidden c
      else if c.isDigit || c = '(' then .unexpectedOperand text.length
      else if c = ')' && !awaitsOperand text then .unbalanced
      else .missingOperand text.length := by
  simp [faultAt]

theorem faultAt_length (text : List Char) :
    faultAt text text.length =
      if awaitsOperand text then .missingOperand text.length else .unbalanced := by
  simp [faultAt]

/-- The cause for which a lexeme is refused. -/
def Yard.fault (yard : Yard) : Lexeme → Rejection
  | .number _ | .opening => .unexpectedOperand yard.position
  | .closing => if yard.awaitsOperand then .missingOperand yard.position else .unbalanced
  | .operator _ => .missingOperand yard.position
  | .stray c => .forbidden c

theorem Yard.eq_fault_of_step_error {yard : Yard} {lexeme : Lexeme} {cause : Rejection}
    (hscanned : lexeme.IsScanned) (h : yard.step lexeme = .error cause) :
    cause = yard.fault lexeme := by
  cases lexeme with
  | number digits => exact ((step_number_eq_error_iff hscanned).mp h).2
  | _ =>
    cases hawaits : yard.awaitsOperand <;> cases henclosing : yard.enclosing <;>
      simp_all [step, opening, closing, operator, fault]

namespace OpenDerivation

/-- The cause at a character that cannot follow. -/
theorem eq_faultAt_of_run_error (d : OpenDerivation) {c : Char} {cause : Rejection}
    (h : d.yard.run (Lexeme.scan [c]) = .error cause) (tail : List Char) :
    cause = faultAt (d.chars ++ c :: tail) d.chars.length := by
  rw [faultAt_append, d.awaitsOperand_chars, ← d.awaitsOperand_yard]
  have hposition : d.yard.position = d.chars.length := rfl
  cases hdigit : c.isDigit with
  | true =>
    have hscanned : (Lexeme.number [c]).IsScanned := ⟨List.cons_ne_nil c [], by simpa using hdigit⟩
    rw [Lexeme.scan_singleton_of_digit hdigit, Yard.run_singleton] at h
    rw [Yard.eq_fault_of_step_error hscanned h]
    simp [isExpressionChar, hdigit, Yard.fault, hposition]
  | false =>
    rw [Lexeme.scan_cons_of_not_digit hdigit, Lexeme.scan_nil, Yard.run_singleton] at h
    rw [Yard.eq_fault_of_step_error (Lexeme.isScanned_ofChar c) h, ← hposition]
    by_cases hopening : c = '('
    · subst hopening
      rfl
    by_cases hclosing : c = ')'
    · subst hclosing
      cases hawaits : d.yard.awaitsOperand <;>
        simp [isExpressionChar_eq, Lexeme.ofChar, Yard.fault, hawaits]
    cases hop : Operator.ofSymbol? c <;>
      simp [isExpressionChar_eq, hdigit, hopening, hclosing, hop, Lexeme.ofChar, Yard.fault]

/-- The cause at the end of the text. -/
theorem eq_faultAt_of_finish_error (d : OpenDerivation) {cause : Rejection}
    (h : d.yard.finish = .error cause) : cause = faultAt d.chars d.chars.length := by
  rw [faultAt_length, d.awaitsOperand_chars, ← d.awaitsOperand_yard]
  have hposition : d.yard.position = d.chars.length := rfl
  cases hawaits : d.yard.awaitsOperand <;> cases henclosing : d.yard.enclosing <;>
    simp_all [Yard.finish]

end OpenDerivation

/-- No expression goes on with a character that is refused. -/
theorem not_isViable_concat {front : List Char} {c : Char} {after : Yard} {cause : Rejection}
    (hfront : Yard.start.run (Lexeme.scan front) = .ok after)
    (hc : after.run (Lexeme.scan [c]) = .error cause)
    (hscan : Lexeme.scan (front ++ [c]) = Lexeme.scan front ++ Lexeme.scan [c]) :
    ¬ IsViable (front ++ [c]) := by
  intro hviable
  obtain ⟨final, hfinal⟩ := isViable_iff.mp hviable
  rw [hscan, Yard.run_append, hfront, Fallible.ok_bind, hc] at hfinal
  exact absurd hfinal (by simp)

/-- A refused text is refused behind its longest viable beginning, for the cause found there. -/
theorem toPostfix_error_behind_longest_viable {text : List Char} {cause : Rejection}
    (h : toPostfix text = .error cause) :
    ∃ k, IsGreatest {k | k ≤ text.length ∧ IsViable (text.take k)} k ∧ cause = faultAt text k := by
  rw [toPostfix, Fallible.bind_eq_error] at h
  rcases h with hrun | ⟨after, hrun, hfinish⟩
  · obtain ⟨front, c, tail, after, rfl, hfront, hc, hscan⟩ := Yard.exists_split_of_run_error hrun
    have hnot := not_isViable_concat hfront hc hscan
    obtain ⟨d, rfl, rfl⟩ := OpenDerivation.exists_of_run_scan hfront
    have hviable : IsViable ((d.chars ++ c :: tail).take d.chars.length) := by
      rw [List.take_left]
      exact d.isViable_chars
    refine ⟨d.chars.length, ⟨⟨by simp, hviable⟩, ?_⟩, d.eq_faultAt_of_run_error hc tail⟩
    intro k hk
    apply Nat.le_of_not_lt
    intro hlonger
    have hbegins : d.chars ++ [c] <+: (d.chars ++ c :: tail).take k := by
      rw [List.prefix_take_iff]
      refine ⟨⟨tail, by simp⟩, ?_⟩
      rw [List.length_append]
      exact hlonger
    exact hnot (hk.2.of_isPrefix hbegins)
  · obtain ⟨d, rfl, rfl⟩ := OpenDerivation.exists_of_run_scan hrun
    have hviable : IsViable (d.chars.take d.chars.length) := by
      rw [List.take_length]
      exact d.isViable_chars
    exact ⟨d.chars.length, ⟨⟨Nat.le_refl _, hviable⟩, fun k hk ↦ hk.1⟩,
      d.eq_faultAt_of_finish_error hfinish⟩

/-- An operand behind a group is refused where it begins. -/
theorem toPostfix_error_behind_group :
    let text := "12*(3+45)(6".toList
    let cause : Rejection := .unexpectedOperand 9
    toPostfix text = .error cause ∧
      ∃ k, IsGreatest {k | k ≤ text.length ∧ IsViable (text.take k)} k ∧ cause = faultAt text k :=
  ⟨rfl, toPostfix_error_behind_longest_viable rfl⟩

end ExactCalc.Infix
