import ExactCalc.Operator

/-!
# Expression trees

An expression without its layout: integers at the leaves and operators at the nodes. Its value is
the exact rational, defined unless some divisor in the tree has value zero.
-/

namespace ExactCalc

inductive Expr
  | num (n : Int)
  | binary (op : Operator) (left right : Expr)
  deriving DecidableEq

namespace Expr

def value? : Expr → Option Rat
  | num n => some n
  | binary op left right => do
    let x ← left.value?
    let y ← right.value?
    op.combine? x y

@[simp] theorem value?_num (n : Int) : (num n).value? = some (n : Rat) := rfl

theorem value?_binary (op : Operator) (left right : Expr) :
    (binary op left right).value? =
      left.value?.bind fun x ↦ right.value?.bind fun y ↦ op.combine? x y := rfl

/-- The value of a node is the sum, difference, product or quotient of the values below it. -/
theorem value?_binary_eq_some_iff {op : Operator} {left right : Expr} {z : Rat} :
    (binary op left right).value? = some z ↔
      ∃ x y, left.value? = some x ∧ right.value? = some y ∧
        (op = .add ∧ x + y = z ∨ op = .sub ∧ x - y = z ∨ op = .mul ∧ x * y = z ∨
          op = .div ∧ y ≠ 0 ∧ x / y = z) := by
  rw [value?_binary, Option.bind_eq_some_iff]
  simp only [Option.bind_eq_some_iff, Operator.combine?_eq_some_iff, exists_and_left]

end Expr

end ExactCalc
