import ExactCalc.Proofs.Rpn.Forest

/-!
# Parts of a program

A part that runs on its own never reaches below the values it has pushed. It therefore does in every
place what it does alone, above the values that are there already. Two parts with the same value can
be exchanged in any program, also in one that fails: it goes on failing in the same way.
-/

namespace ExactCalc.Rpn

/-- A step that succeeds leaves alone what lies below the stack it was given. -/
theorem Stack.step_append {stack after : Stack} {token : Token} (h : stack.step token = .ok after)
    (below : Stack) : Stack.step (stack ++ below) token = .ok (after ++ below) := by
  cases token with
  | number n =>
    obtain rfl := Except.ok.inj h
    rfl
  | operator op =>
    obtain ⟨x, y, z, rest, rfl, hcombine, rfl⟩ := applyOperator_eq_ok_iff.mp h
    exact applyOperator_eq_ok_iff.mpr ⟨x, y, z, rest ++ below, rfl, hcombine, rfl⟩
  | opening => simp [step] at h

namespace Program

/-- A run that succeeds leaves alone what lies below the stack it was given. -/
theorem run_append_stack {program : Program} {stack after : Stack}
    (h : program.run stack = .ok after) (below : Stack) :
    program.run (stack ++ below) = .ok (after ++ below) := by
  induction program generalizing stack with
  | nil =>
    obtain rfl := Except.ok.inj h
    rfl
  | cons token program ih =>
    rw [run_cons, Fallible.bind_eq_ok] at h
    obtain ⟨middle, hstep, hrun⟩ := h
    rw [run_cons, Stack.step_append hstep, Fallible.ok_bind]
    exact ih hrun

/-- A part with a value puts it on top of any stack. -/
theorem run_of_evaluate {part : Program} {v : Rat} (h : part.evaluate = .ok v) (below : Stack) :
    part.run below = .ok (v :: below) := by
  rw [evaluate, Fallible.bind_eq_ok] at h
  obtain ⟨stack, hrun, hresult⟩ := h
  obtain rfl := Stack.result_eq_ok_iff.mp hresult
  exact run_append_stack hrun below

/-- Parts with the same value can be exchanged. -/
theorem evaluate_exchange {part part' : Program} {v : Rat} (h : part.evaluate = .ok v)
    (h' : part'.evaluate = .ok v) (front tail : Program) :
    evaluate (front ++ part ++ tail) = evaluate (front ++ part' ++ tail) := by
  have hrun : part.run = part'.run := by
    funext below
    rw [run_of_evaluate h, run_of_evaluate h']
  rw [evaluate, evaluate, run_append, run_append, run_append, run_append, hrun]

theorem evaluate_number (n : Int) : evaluate [.number n] = .ok n := rfl

/-- A part with a whole value can be replaced by that number, wherever it stands. -/
theorem evaluate_fold_constant (front part tail : Program) (n : Int)
    (h : part.evaluate = .ok n) :
    evaluate (front ++ part ++ tail) = evaluate (front ++ [.number n] ++ tail) :=
  evaluate_exchange h (evaluate_number n) front tail

/-- The part underneath is folded although an operand is missing at the end. -/
theorem evaluate_fold_constant_before_missing_operand :
    let part : Program := [.number 7, .number 2, .operator .div, .number 4, .operator .mul]
    let tail : Program := [.operator .sub, .operator .add]
    part.evaluate = .ok 14 ∧
      evaluate ([.number 5] ++ part ++ tail) = evaluate ([.number 5] ++ [.number 14] ++ tail) ∧
      evaluate ([.number 5] ++ [.number 14] ++ tail) = .error .emptyStack := by
  intro part tail
  have hpart : part.evaluate = .ok ((14 : Int) : Rat) := by decide +kernel
  exact ⟨hpart, evaluate_fold_constant [.number 5] part tail 14 hpart, rfl⟩

end Program

end ExactCalc.Rpn
