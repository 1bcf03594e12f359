import ExactCalc.Proofs.Fallible
import ExactCalc.Rpn.Machine

/-!
# Running a post-order listing

The machine runs the listing of a tree on any stack: it puts the value of the tree on top, or stops
at a division by zero when the tree has no value. The tree has no value exactly when the divisor of
some quotient in it has value zero.
-/

namespace ExactCalc

namespace Rpn.Token

/-- The number that a token pushes. -/
def number? : Token → Option Int
  | number n => some n
  | _ => none

end Rpn.Token

namespace Expr

open Rpn (Program Token Stack)

theorem opening_notMem_postOrder (tree : Expr) : Token.opening ∉ tree.postOrder := by
  induction tree with
  | num n => simp
  | binary op left right ihl ihr => simp [ihl, ihr]

/-- The divisor of some quotient in the tree has value zero. -/
inductive HasZeroDivisor : Expr → Prop
  | here {left right : Expr} : right.value? = some 0 → HasZeroDivisor (.binary .div left right)
  | left {op : Operator} {left right : Expr} :
      HasZeroDivisor left → HasZeroDivisor (.binary op left right)
  | right {op : Operator} {left right : Expr} :
      HasZeroDivisor right → HasZeroDivisor (.binary op left right)

theorem value?_binary_eq_none_iff {op : Operator} {left right : Expr} :
    (binary op left right).value? = none ↔
      left.value? = none ∨ right.value? = none ∨
        (op = .div ∧ left.value? ≠ none ∧ right.value? = some 0) := by
  rw [value?_binary]
  cases left.value? with
  | none => simp
  | some x =>
    cases right.value? with
    | none => simp
    | some y => simp [Operator.combine?_eq_none_iff]

theorem value?_eq_none_iff {tree : Expr} : tree.value? = none ↔ tree.HasZeroDivisor := by
  induction tree with
  | num n =>
    constructor
    · intro h
      simp at h
    · intro h
      cases h
  | binary op left right ihl ihr =>
    rw [value?_binary_eq_none_iff]
    constructor
    · intro h
      rcases h with h | h | ⟨rfl, -, h⟩
      · exact .left (ihl.mp h)
      · exact .right (ihr.mp h)
      · exact .here h
    · intro h
      cases h with
      | here h =>
        by_cases hleft : left.value? = none
        · exact Or.inl hleft
        · exact Or.inr (Or.inr ⟨rfl, hleft, h⟩)
      | left h => exact Or.inl (ihl.mpr h)
      | right h => exact Or.inr (Or.inl (ihr.mpr h))

/-- The outcome of a listing on a stack. -/
theorem run_postOrder (tree : Expr) (stack : Stack) :
    Program.run tree.postOrder stack =
      match tree.value? with
      | some v => .ok (v :: stack)
      | none => .error .divisionByZero := by
  induction tree generalizing stack with
  | num n => rfl
  | binary op left right ihl ihr =>
    rw [postOrder_binary, Program.run_append, Program.run_append, ihl, value?_binary]
    cases left.value? with
    | none => rfl
    | some x =>
      rw [Fallible.ok_bind, ihr]
      cases right.value? with
      | none => rfl
      | some y =>
        have hstep : Program.run [.operator op] (y :: x :: stack) =
            Stack.applyOperator op (y :: x :: stack) >>= Program.run [] := rfl
        rw [Fallible.ok_bind, hstep]
        cases h : op.combine? x y with
        | none => simp [Stack.applyOperator, h]
        | some z => simp [Stack.applyOperator, h]

theorem evaluate_postOrder_eq_ok_iff {tree : Expr} {v : Rat} :
    Program.evaluate tree.postOrder = .ok v ↔ tree.value? = some v := by
  rw [Program.evaluate, run_postOrder]
  cases tree.value? with
  | none => simp
  | some w => simp [Stack.result]

/-- The listing of a tree has no fault but a division by zero. -/
theorem evaluate_postOrder_eq_error_iff {tree : Expr} {cause : Rejection} :
    Program.evaluate tree.postOrder = .error cause ↔
      tree.HasZeroDivisor ∧ cause = .divisionByZero := by
  rw [Program.evaluate, run_postOrder, ← value?_eq_none_iff]
  cases tree.value? with
  | none => simp [eq_comm]
  | some v => simp [Stack.result]

end Expr

end ExactCalc
