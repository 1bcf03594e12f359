import ExactCalc.Rejection
import ExactCalc.Rpn.Token

/-!
# The stack machine

A number is pushed; an operator replaces the two values on top by its result, the upper one being
the right operand. A program has a value when exactly one is left on the stack.
-/

namespace ExactCalc.Rpn

/-- The values not yet consumed, top first. -/
abbrev Stack := List Rat

namespace Stack

def applyOperator (op : Operator) : Stack → Except Rejection Stack
  | y :: x :: rest =>
    match op.combine? x y with
    | some z => .ok (z :: rest)
    | none => .error .divisionByZero
  | _ => .error .emptyStack

theorem applyOperator_eq_ok_iff {op : Operator} {stack after : Stack} :
    stack.applyOperator op = .ok after ↔
      ∃ x y z below, stack = y :: x :: below ∧ op.combine? x y = some z ∧ z :: below = after := by
  constructor
  · intro h
    match stack with
    | y :: x :: below =>
      cases hcombine : op.combine? x y with
      | none => simp [applyOperator, hcombine] at h
      | some z => exact ⟨x, y, z, below, rfl, hcombine, by simpa [applyOperator, hcombine] using h⟩
    | [_] | [] => simp [applyOperator] at h
  · rintro ⟨x, y, z, below, rfl, hcombine, rfl⟩
    simp [applyOperator, hcombine]

def step (stack : Stack) : Token → Except Rejection Stack
  | .number n => .ok (n :: stack)
  | .operator op => stack.applyOperator op
  | .opening => .error .openingInProgram

def result : Stack → Except Rejection Rat
  | [value] => .ok value
  | stack => .error (.leftover stack.length)

end Stack

namespace Program

def run (program : Program) (stack : Stack) : Except Rejection Stack :=
  program.foldlM Stack.step stack

def evaluate (program : Program) : Except Rejection Rat :=
  program.run [] >>= Stack.result

@[simp] theorem run_nil (stack : Stack) : run [] stack = .ok stack := rfl

theorem run_cons (token : Token) (program : Program) (stack : Stack) :
    run (token :: program) stack = stack.step token >>= run program := rfl

theorem run_append (first second : Program) (stack : Stack) :
    run (first ++ second) stack = run first stack >>= run second :=
  List.foldlM_append

end Program

end ExactCalc.Rpn
