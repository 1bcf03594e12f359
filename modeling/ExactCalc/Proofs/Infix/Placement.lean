import ExactCalc.Proofs.Infix.Viability

/-!
# What stands where in an expression

Whether an operand is due can be read off the last character, and the number of open parentheses is
the surplus of `(`. Both are facts about every text that is read without error, so they hold of every
beginning of an expression, and each of them excludes texts of certain shapes.
-/

namespace ExactCalc.Infix

/-- An operand is due behind the text: there is nothing before it, or an operator or `(`. -/
def awaitsOperand (text : List Char) : Bool :=
  match text.getLast? with
  | none => true
  | some c => c = '(' || (Operator.ofSymbol? c).isSome

@[simp]
theorem awaitsOperand_concat (text : List Char) (c : Char) :
    awaitsOperand (text ++ [c]) = (decide (c = '(') || (Operator.ofSymbol? c).isSome) := by
  simp [awaitsOperand]

/-- The character ends a number or a group. -/
def endsOperand (c : Char) : Bool :=
  c.isDigit || c = ')'

/-- The character begins a number or a group. -/
def beginsOperand (c : Char) : Bool :=
  c.isDigit || c = '('

theorem awaitsOperand_concat_of_endsOperand (text : List Char) {c : Char}
    (hc : endsOperand c = true) : awaitsOperand (text ++ [c]) = false := by
  rw [awaitsOperand_concat]
  by_cases hdigit : c.isDigit = true
  · have hopening : c ≠ '(' := by
      intro heq
      subst heq
      simp at hdigit
    simp [hopening, Operator.ofSymbol?_of_isDigit hdigit]
  · have hclosing : c = ')' := by simpa [endsOperand, hdigit] using hc
    rw [hclosing]
    decide

theorem Derivation.exists_chars_eq_concat (factor : Derivation .factor) :
    ∃ front c, factor.chars = front ++ [c] ∧ endsOperand c = true := by
  cases factor with
  | number digits hne hdigits =>
    obtain ⟨front, c, rfl⟩ := (List.eq_nil_or_concat digits).resolve_left hne
    rw [List.concat_eq_append] at hdigits
    have hc : c.isDigit = true := hdigits c (by simp)
    refine ⟨front, c, ?_, by simp [endsOperand, hc]⟩
    rw [chars_number, List.concat_eq_append]
  | group inner => exact ⟨'(' :: inner.chars, ')', inner.chars_group, by decide⟩

/-- Before an operand there is nothing, or an operator or `(`. -/
theorem OpenDerivation.getLast?_lexemes {d : OpenDerivation} (hnone : d.operand? = none) :
    d.lexemes = [] ∨ d.lexemes.getLast? = some .opening ∨
      ∃ op, d.lexemes.getLast? = some (.operator op) := by
  obtain ⟨enclosing, ⟨sum?, product?⟩, operand?⟩ := d
  obtain rfl : operand? = none := hnone
  cases product? with
  | some left =>
    right; right
    exact ⟨left.op, by simp [lexemes, Frame.lexemes, LeftOperand.lexemes]⟩
  | none =>
    cases sum? with
    | some left =>
      right; right
      exact ⟨left.op, by simp [lexemes, Frame.lexemes, LeftOperand.lexemes]⟩
    | none =>
      cases enclosing with
      | nil => exact .inl rfl
      | cons outer enclosing =>
        right; left
        simp [lexemes, Frame.lexemes]

/-- Whether an operand is due can be read off the last character. -/
theorem OpenDerivation.awaitsOperand_chars (d : OpenDerivation) :
    awaitsOperand d.chars = d.operand?.isNone := by
  cases hoperand : d.operand? with
  | some operand =>
    let before : OpenDerivation := { d with operand? := none }
    have hchars : d.chars = before.chars ++ operand.chars := by
      simp [before, chars, lexemes, hoperand, Derivation.chars]
    obtain ⟨front, c, hfront, hc⟩ := operand.exists_chars_eq_concat
    rw [hchars, hfront, ← List.append_assoc, awaitsOperand_concat_of_endsOperand _ hc]
    rfl
  | none =>
    rcases getLast?_lexemes hoperand with hnil | hopening | ⟨op, hop⟩
    · rw [chars, hnil]
      rfl
    · obtain ⟨front, hfront⟩ := List.getLast?_eq_some_iff.mp hopening
      simp [chars, hfront, Lexeme.chars]
    · obtain ⟨front, hfront⟩ := List.getLast?_eq_some_iff.mp hop
      simp [chars, hfront, Lexeme.chars]

theorem Yard.awaitsOperand_of_run_scan {text : List Char} {after : Yard}
    (h : Yard.start.run (Lexeme.scan text) = .ok after) :
    after.awaitsOperand = Infix.awaitsOperand text := by
  obtain ⟨d, rfl, rfl⟩ := OpenDerivation.exists_of_run_scan h
  rw [d.awaitsOperand_yard, d.awaitsOperand_chars]

/-- Numbers and groups begin where an operand is due, operators and `)` stand behind one. -/
def Lexeme.beginsOperand : Lexeme → Bool
  | number _ | opening => true
  | closing | operator _ | stray _ => false

theorem Yard.awaitsOperand_of_step {yard after : Yard} {lexeme : Lexeme}
    (h : yard.step lexeme = .ok after) : yard.awaitsOperand = lexeme.beginsOperand := by
  cases hawaits : yard.awaitsOperand <;> cases lexeme <;>
    simp_all [step, number, opening, closing, operator, Lexeme.beginsOperand]

theorem Lexeme.beginsOperand_ofChar {c : Char} (hc : c.isDigit = false) :
    (Lexeme.ofChar c).beginsOperand = Infix.beginsOperand c := by
  rw [Infix.beginsOperand, hc, Bool.false_or]
  by_cases hopening : c = '('
  · rw [hopening]
    rfl
  by_cases hclosing : c = ')'
  · rw [hclosing]
    rfl
  cases hop : Operator.ofSymbol? c <;> simp [ofChar, hopening, hclosing, hop, beginsOperand]

theorem IsViable.awaitsOperand_of_scan {front : List Char} {c : Char} {lexeme : Lexeme}
    (h : IsViable (front ++ [c]))
    (hscan : Lexeme.scan (front ++ [c]) = Lexeme.scan front ++ [lexeme]) :
    awaitsOperand front = lexeme.beginsOperand := by
  obtain ⟨after, hrun⟩ := isViable_iff.mp h
  rw [hscan, Yard.run_append, Fallible.bind_eq_ok] at hrun
  obtain ⟨middle, hfront, hstep⟩ := hrun
  rw [Yard.run_singleton] at hstep
  calc
    awaitsOperand front = middle.awaitsOperand := (Yard.awaitsOperand_of_run_scan hfront).symm
    _ = lexeme.beginsOperand := Yard.awaitsOperand_of_step hstep

/-- An operand is due behind a text exactly when the next character begins one, unless that character
is one more digit of a number. -/
theorem IsViable.awaitsOperand_eq {front : List Char} {c : Char} (h : IsViable (front ++ [c]))
    (hlast : c.isDigit = true → ∀ d ∈ front.getLast?, d.isDigit = false) :
    awaitsOperand front = beginsOperand c := by
  cases hdigit : c.isDigit with
  | true =>
    calc
      awaitsOperand front = true :=
        h.awaitsOperand_of_scan (Lexeme.scan_concat_of_digit (hlast hdigit) hdigit)
      _ = beginsOperand c := by
        rw [beginsOperand, hdigit, Bool.true_or]
  | false =>
    calc
      awaitsOperand front = (Lexeme.ofChar c).beginsOperand :=
        h.awaitsOperand_of_scan (Lexeme.scan_concat_of_not_digit front hdigit)
      _ = beginsOperand c := Lexeme.beginsOperand_ofChar hdigit

/-- One step opens or closes at most the parenthesis that it reads. -/
theorem Yard.enclosing_of_step {yard after : Yard} {lexeme : Lexeme}
    (h : yard.step lexeme = .ok after) :
    after.enclosing.length + [lexeme].count .closing =
      yard.enclosing.length + [lexeme].count .opening := by
  cases lexeme with
  | number digits =>
    obtain ⟨-, n, -, rfl⟩ := number_eq_ok_iff.mp h
    simp
  | opening =>
    simp only [step, opening] at h
    split at h <;> simp at h
    simp [← h]
  | closing =>
    cases hawaits : yard.awaitsOperand <;> cases henclosing : yard.enclosing <;>
      simp [step, closing, hawaits, henclosing] at h
    simp [← h]
  | operator op =>
    simp only [step, operator] at h
    split at h <;> simp at h
    simp [← h]
  | stray c => simp [step] at h

theorem Yard.enclosing_of_run {yard after : Yard} {lexemes : List Lexeme}
    (h : yard.run lexemes = .ok after) :
    after.enclosing.length + lexemes.count .closing =
      yard.enclosing.length + lexemes.count .opening := by
  induction lexemes generalizing yard with
  | nil =>
    rw [run_nil] at h
    simp [Except.ok.inj h]
  | cons lexeme lexemes ih =>
    rw [run_cons, Fallible.bind_eq_ok] at h
    obtain ⟨next, hstep, hrun⟩ := h
    have hfirst := enclosing_of_step hstep
    have hrest := ih hrun
    rw [List.count_cons, List.count_cons]
    rw [List.count_singleton, List.count_singleton] at hfirst
    omega

/-- The parentheses that are open are those that were opened and not closed. -/
theorem Yard.enclosing_of_run_scan {text : List Char} {after : Yard}
    (h : Yard.start.run (Lexeme.scan text) = .ok after) :
    after.enclosing.length + text.count ')' = text.count '(' := by
  have hopening : (Lexeme.scan text).count .opening = text.count '(' :=
    Lexeme.count_scan '(' (by decide) text
  have hclosing : (Lexeme.scan text).count .closing = text.count ')' :=
    Lexeme.count_scan ')' (by decide) text
  have hrun := enclosing_of_run h
  rw [hopening, hclosing] at hrun
  simpa [start] using hrun

theorem IsViable.count_closing_le {text : List Char} (h : IsViable text) :
    text.count ')' ≤ text.count '(' := by
  obtain ⟨after, hrun⟩ := isViable_iff.mp h
  have hcount := Yard.enclosing_of_run_scan hrun
  omega

/-- At the end of an expression no parenthesis is open and no operand is due. -/
theorem IsExpression.exists_run {text : List Char} (h : IsExpression text) :
    ∃ after, Yard.start.run (Lexeme.scan text) = .ok after ∧ after.awaitsOperand = false ∧
      after.enclosing = [] := by
  obtain ⟨program, hprogram⟩ := (exists_toPostfix_eq_ok_iff text).mpr h
  obtain ⟨after, hrun, hfinish⟩ := Fallible.bind_eq_ok.mp hprogram
  have hend := Yard.finish_eq_ok_iff.mp hfinish
  exact ⟨after, hrun, hend.1, hend.2.1⟩

theorem IsExpression.count_closing_eq {text : List Char} (h : IsExpression text) :
    text.count ')' = text.count '(' := by
  obtain ⟨after, hrun, -, henclosing⟩ := h.exists_run
  have hcount := Yard.enclosing_of_run_scan hrun
  simpa [henclosing] using hcount

theorem IsExpression.awaitsOperand_eq {text : List Char} (h : IsExpression text) :
    awaitsOperand text = false := by
  obtain ⟨after, hrun, hawaits, -⟩ := h.exists_run
  rwa [← Yard.awaitsOperand_of_run_scan hrun]

/-! ## Malformed texts -/

/-- Shapes that no expression has. -/
inductive IsMalformed : List Char → Prop
  | foreign (front : List Char) (c : Char) (tail : List Char) :
      isExpressionChar c = false → IsMalformed (front ++ c :: tail)
  /-- An operator at the beginning, or behind `(` or another operator. -/
  | unaryOperator (front : List Char) (op : Operator) (tail : List Char) :
      awaitsOperand front = true → IsMalformed (front ++ op.symbol :: tail)
  /-- An operator at the end, or nothing at all. -/
  | unfinished (text : List Char) : awaitsOperand text = true → IsMalformed text
  | emptyGroup (front tail : List Char) : IsMalformed (front ++ '(' :: ')' :: tail)
  /-- Two operands side by side, not two digits of one number. -/
  | juxtaposed (front : List Char) (c d : Char) (tail : List Char) :
      endsOperand c = true → beginsOperand d = true → ¬ (c.isDigit = true ∧ d.isDigit = true) →
      IsMalformed (front ++ c :: d :: tail)
  | unmatchedOpening (text : List Char) : text.count ')' < text.count '(' → IsMalformed text
  | unmatchedClosing (front tail : List Char) :
      front.count '(' < front.count ')' → IsMalformed (front ++ tail)

theorem IsExpression.isViable_of_append {front tail : List Char}
    (h : IsExpression (front ++ tail)) : IsViable front :=
  ⟨tail, h⟩

theorem IsExpression.isViable_concat {front tail : List Char} {c : Char}
    (h : IsExpression (front ++ c :: tail)) : IsViable (front ++ [c]) := by
  rw [List.append_cons] at h
  exact h.isViable_of_append

theorem IsMalformed.not_isExpression {text : List Char} (hmalformed : IsMalformed text) :
    ¬ IsExpression text := by
  intro h
  cases hmalformed with
  | foreign front c tail hc =>
    obtain ⟨d, hd⟩ := Derivation.isExpression_iff.mp h
    have hmem : c ∈ d.chars := by simp [hd]
    rw [d.isExpressionChar_of_mem_chars hmem] at hc
    exact absurd hc (by simp)
  | unaryOperator front op tail hawaits =>
    have hop := h.isViable_concat.awaitsOperand_eq (by simp)
    rw [hawaits] at hop
    cases op <;> exact absurd hop (by decide)
  | unfinished text hawaits =>
    rw [h.awaitsOperand_eq] at hawaits
    exact absurd hawaits (by simp)
  | emptyGroup front tail =>
    rw [List.append_cons] at h
    have hclosing := h.isViable_concat.awaitsOperand_eq (by simp)
    rw [awaitsOperand_concat] at hclosing
    exact absurd hclosing (by decide)
  | juxtaposed front c d tail hc hd hone =>
    rw [List.append_cons] at h
    have hlast : d.isDigit = true → ∀ e ∈ (front ++ [c]).getLast?, e.isDigit = false := by
      intro hdigit
      simpa [hdigit] using hone
    have hbegins := h.isViable_concat.awaitsOperand_eq hlast
    rw [awaitsOperand_concat_of_endsOperand front hc, hd] at hbegins
    exact absurd hbegins (by simp)
  | unmatchedOpening text hcount =>
    have heq := h.count_closing_eq
    omega
  | unmatchedClosing front tail hcount =>
    have hle := h.isViable_of_append.count_closing_le
    omega

/-- The conversion accepts the expressions, and nothing that is malformed. -/
theorem toPostfix_accepts_exactly_expressions (text : List Char) :
    ((∃ program, toPostfix text = .ok program) ↔ IsExpression text) ∧
      (IsMalformed text → ¬ ∃ program, toPostfix text = .ok program) := by
  refine ⟨exists_toPostfix_eq_ok_iff text, fun hmalformed haccepted ↦ ?_⟩
  exact hmalformed.not_isExpression ((exists_toPostfix_eq_ok_iff text).mp haccepted)

end ExactCalc.Infix
