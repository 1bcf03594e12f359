import ExactCalc.Proofs.Rpn.Height

/-!
# Where a program stops

The machine stops at the earliest token that it cannot execute, and what follows that token makes no
difference. Whether a token can be executed is known from the counts of the tokens in front of it,
except that a divisor may be zero. A program without such a token leaves as many values as its height.
-/

namespace ExactCalc.Rpn

theorem Forest.HasValues.length_eq {forest : Forest} {stack : Stack} (h : forest.HasValues stack) :
    forest.length = stack.length := by
  have hlength := congrArg List.length h
  rwa [List.length_map, List.length_map] at hlength

namespace Stack

/-- An operator needs two values, and a quotient a divisor that is not zero. -/
theorem applyOperator_eq_error_iff {stack : Stack} {op : Operator} {cause : Rejection} :
    stack.applyOperator op = .error cause ↔
      stack.length < 2 ∧ cause = .emptyStack ∨
        2 ≤ stack.length ∧ (op = .div ∧ stack.head? = some 0) ∧ cause = .divisionByZero := by
  match stack with
  | y :: x :: below =>
    have hzero : op.combine? x y = none ↔ op = .div ∧ y = 0 := Operator.combine?_eq_none_iff
    rw [applyOperator]
    cases hcombine : op.combine? x y with
    | none => simp [hzero.mp hcombine, eq_comm]
    | some z =>
      have hnot : ¬ (op = .div ∧ y = 0) := by simp [← hzero, hcombine]
      simpa using fun hop hy ↦ absurd ⟨hop, hy⟩ hnot
  | [_] | [] => simp [applyOperator, eq_comm]

theorem ne_nil_of_step {stack after : Stack} {token : Token} (h : stack.step token = .ok after) :
    after ≠ [] := by
  rintro rfl
  cases token with
  | number n => simp [step] at h
  | opening => simp [step] at h
  | operator op =>
    obtain ⟨x, y, z, below, -, -, hafter⟩ := applyOperator_eq_ok_iff.mp h
    simp at hafter

theorem result_of_length_ne_one {stack : Stack} (h : stack.length ≠ 1) :
    stack.result = .error (.leftover stack.length) := by
  match stack with
  | [] => rfl
  | [_] => exact absurd rfl h
  | _ :: _ :: _ => rfl

end Stack

namespace Program

/-- The count of the numbers less that of the operators. -/
def height (program : Program) : Int :=
  program.numbers - program.operators

/-- Behind the tokens in front, the machine cannot execute the token. -/
inductive StopsAt (front : Program) : Token → Rejection → Prop
  | opening : StopsAt front .opening .openingInProgram
  | operands {op : Operator} : front.height < 2 → StopsAt front (.operator op) .emptyStack
  | divisor {below : Stack} : 2 ≤ front.height → front.run [] = .ok (0 :: below) →
      StopsAt front (.operator .div) .divisionByZero

/-- The machine can execute every token. -/
def IsFaultless (program : Program) : Prop :=
  ∀ front token cause, front ++ [token] <+: program → ¬ StopsAt front token cause

/-- The earliest token that the machine cannot execute is refused for the cause. -/
def StopsWith (program : Program) (cause : Rejection) : Prop :=
  ∃ front token tail, program = front ++ token :: tail ∧ front.IsFaultless ∧
    StopsAt front token cause

/-- A run leaves as many values as the height of what has been run. -/
theorem length_of_run {program : Program} {stack : Stack} (h : program.run [] = .ok stack) :
    (stack.length : Int) = program.height := by
  have hempty : Forest.HasValues [] [] := rfl
  obtain ⟨forest, hforest, hvalues⟩ := Forest.exists_run hempty h
  have hcounts := Forest.length_of_run hforest
  have hlength := hvalues.length_eq
  rw [height]
  omega

theorem stopsAt_operator_iff {front : Program} {stack : Stack} (hrun : front.run [] = .ok stack)
    {op : Operator} {cause : Rejection} :
    StopsAt front (.operator op) cause ↔
      stack.length < 2 ∧ cause = .emptyStack ∨
        2 ≤ stack.length ∧ (op = .div ∧ stack.head? = some 0) ∧ cause = .divisionByZero := by
  have hheight := length_of_run hrun
  constructor
  · intro h
    cases h with
    | operands hlow => exact Or.inl ⟨by omega, rfl⟩
    | divisor hoperands hzero =>
      obtain rfl := Except.ok.inj (hrun.symm.trans hzero)
      exact Or.inr ⟨by omega, ⟨rfl, rfl⟩, rfl⟩
  · intro h
    rcases h with ⟨hlow, rfl⟩ | ⟨hoperands, ⟨rfl, hhead⟩, rfl⟩
    · exact .operands (by omega)
    · obtain ⟨below, rfl⟩ := List.head?_eq_some_iff.mp hhead
      exact .divisor (by omega) hrun

/-- Behind tokens that have been executed, the machine stops where the counts and the divisor say. -/
theorem step_eq_error_iff {front : Program} {stack : Stack} (hrun : front.run [] = .ok stack)
    {token : Token} {cause : Rejection} :
    stack.step token = .error cause ↔ StopsAt front token cause := by
  cases token with
  | number n => exact ⟨nofun, nofun⟩
  | operator op => exact Stack.applyOperator_eq_error_iff.trans (stopsAt_operator_iff hrun).symm
  | opening =>
    constructor
    · intro h
      obtain rfl := Except.error.inj h
      exact .opening
    · intro h
      cases h
      rfl

theorem isFaultless_nil : IsFaultless [] := by
  intro front token cause h
  simp at h

theorem isFaultless_concat_iff {program : Program} {token : Token} :
    IsFaultless (program ++ [token]) ↔
      IsFaultless program ∧ ∀ cause, ¬ StopsAt program token cause := by
  constructor
  · intro h
    exact ⟨fun front token cause hfront ↦ h front token cause (hfront.trans (List.prefix_append _ _)),
      fun cause ↦ h program token cause List.prefix_rfl⟩
  · intro h front token' cause hfront
    rcases List.prefix_concat_iff.mp hfront with heq | hfront
    · obtain ⟨rfl, rfl⟩ := List.append_singleton_inj.mp heq
      exact h.2 cause
    · exact h.1 front token' cause hfront

theorem isFaultless_or_stopsWith (program : Program) :
    program.IsFaultless ∨ ∃ cause, program.StopsWith cause := by
  induction program using List.reverseRecOn with
  | nil => exact Or.inl isFaultless_nil
  | append_singleton program last ih =>
    rcases ih with hfaultless | ⟨cause, front, token, tail, rfl, hfront, hstops⟩
    · by_cases hlast : ∃ cause, StopsAt program last cause
      · obtain ⟨cause, hstops⟩ := hlast
        exact Or.inr ⟨cause, program, last, [], rfl, hfaultless, hstops⟩
      · exact Or.inl (isFaultless_concat_iff.mpr ⟨hfaultless, not_exists.mp hlast⟩)
    · refine Or.inr ⟨cause, front, token, tail ++ [last], ?_, hfront, hstops⟩
      rw [List.append_assoc, List.cons_append]

theorem run_concat (program : Program) (token : Token) (stack : Stack) :
    run (program ++ [token]) stack = run program stack >>= (Stack.step · token) := by
  rw [run_append]
  cases run program stack with
  | ok middle => cases h : middle.step token <;> simp [run_cons, h]
  | error cause => rfl

/-- The programs that the machine runs to their end are those without a token that stops it. -/
theorem exists_run_iff {program : Program} :
    (∃ stack, program.run [] = .ok stack) ↔ program.IsFaultless := by
  -- From the end, since a token is judged by the run of all tokens in front of it.
  induction program using List.reverseRecOn with
  | nil => exact iff_of_true ⟨[], rfl⟩ isFaultless_nil
  | append_singleton program token ih =>
    rw [isFaultless_concat_iff, ← ih]
    constructor
    · intro h
      obtain ⟨after, h⟩ := h
      rw [run_concat, Fallible.bind_eq_ok] at h
      obtain ⟨stack, hrun, hstep⟩ := h
      refine ⟨⟨stack, hrun⟩, fun cause hstops ↦ ?_⟩
      rw [(step_eq_error_iff hrun).mpr hstops] at hstep
      exact absurd hstep (by simp)
    · intro h
      obtain ⟨⟨stack, hrun⟩, hnot⟩ := h
      cases hstep : stack.step token with
      | ok after => exact ⟨after, by rw [run_concat, hrun, Fallible.ok_bind, hstep]⟩
      | error cause => exact absurd ((step_eq_error_iff hrun).mp hstep) (hnot cause)

theorem eq_nil_of_run_eq_nil {program : Program} (h : program.run [] = .ok []) : program = [] := by
  rcases List.eq_nil_or_concat program with rfl | ⟨front, token, rfl⟩
  · rfl
  · rw [List.concat_eq_append, run_concat, Fallible.bind_eq_ok] at h
    obtain ⟨stack, -, hstep⟩ := h
    exact absurd rfl (Stack.ne_nil_of_step hstep)

theorem StopsWith.run_eq_error {program : Program} {cause : Rejection}
    (h : program.StopsWith cause) : program.run [] = .error cause := by
  obtain ⟨front, token, tail, rfl, hfront, hstops⟩ := h
  obtain ⟨stack, hrun⟩ := exists_run_iff.mpr hfront
  calc
    run (front ++ token :: tail) [] = stack.step token >>= run tail := by
      rw [run_append, hrun, Fallible.ok_bind, run_cons]
    _ = .error cause := by
      rw [(step_eq_error_iff hrun).mpr hstops, Fallible.error_bind]

/-- The outcome of a program that is run to its end. -/
theorem evaluate_of_run {program : Program} {stack : Stack} (hrun : program.run [] = .ok stack) :
    program.evaluate = stack.result := by
  rw [evaluate, hrun, Fallible.ok_bind]

/-- A program stops at its earliest token that cannot be executed, whatever follows. Without such a
token it has a value if its height is one, and otherwise that many values are left over. -/
theorem evaluate_stops_at_earliest_fault (program : Program) :
    (program.IsFaultless ∨ ∃ cause, program.StopsWith cause) ∧
    (∀ cause, program.StopsWith cause → program.evaluate = .error cause) ∧
    (program.IsFaultless →
      0 ≤ program.height ∧ (program.height = 0 → program = []) ∧
      (program.height = 1 → ∃ v, program.evaluate = .ok v) ∧
      (program.height ≠ 1 → program.evaluate = .error (.leftover program.height.toNat))) := by
  refine ⟨program.isFaultless_or_stopsWith, ?stops, ?faultless⟩
  case stops =>
    intro cause hstops
    rw [evaluate, hstops.run_eq_error, Fallible.error_bind]
  case faultless =>
    intro hfaultless
    obtain ⟨stack, hrun⟩ := exists_run_iff.mpr hfaultless
    have hheight := length_of_run hrun
    rw [evaluate_of_run hrun, ← hheight]
    refine ⟨Int.natCast_nonneg _, ?_, ?_, ?_⟩
    · intro hzero
      obtain rfl := List.length_eq_zero_iff.mp (Int.natCast_eq_zero.mp hzero)
      exact eq_nil_of_run_eq_nil hrun
    · intro hone
      obtain ⟨v, rfl⟩ := List.length_eq_one_iff.mp (Int.natCast_inj.mp hone)
      exact ⟨v, rfl⟩
    · intro hne
      rw [Int.toNat_natCast]
      exact Stack.result_of_length_ne_one (by omega)

/-- A division by zero in front of a missing operand and a parenthesis, and a program with two values
left over. -/
theorem evaluate_stops_at_division_before_others :
    let program : Program := [.number 1, .number 0, .operator .div, .operator .add, .opening]
    let faultless : Program := [.number 1, .number 2, .number 3, .operator .sub]
    (program.StopsWith .divisionByZero ∧ program.evaluate = .error .divisionByZero) ∧
    faultless.IsFaultless ∧ faultless.height = 2 ∧ faultless.evaluate = .error (.leftover 2) := by
  intro program faultless
  have hfront : IsFaultless [.number 1, .number 0] := exists_run_iff.mp ⟨_, rfl⟩
  have hstops : program.StopsWith .divisionByZero :=
    ⟨[.number 1, .number 0], .operator .div, [.operator .add, .opening], rfl, hfront,
      .divisor (by decide) rfl⟩
  have hfaultless : faultless.IsFaultless := exists_run_iff.mp ⟨_, rfl⟩
  have hheight : faultless.height ≠ 1 := by decide
  have hprogram := (evaluate_stops_at_earliest_fault program).2.1 _ hstops
  have hleftover := ((evaluate_stops_at_earliest_fault faultless).2.2 hfaultless).2.2.2 hheight
  exact ⟨⟨hstops, hprogram⟩, hfaultless, by decide, hleftover⟩

end Program

end ExactCalc.Rpn
