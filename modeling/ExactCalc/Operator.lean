/-!
# Operators

The four operations of an expression. A quotient has no value when its divisor is zero; the other
operations are total on the rationals.
-/

namespace ExactCalc

inductive Operator
  | add
  | sub
  | mul
  | div
  deriving DecidableEq

namespace Operator

def all : List Operator := [add, sub, mul, div]

def symbol : Operator → Char
  | add => '+'
  | sub => '-'
  | mul => '*'
  | div => '/'

def ofSymbol? (c : Char) : Option Operator :=
  all.find? (·.symbol = c)

/-- Products and quotients bind tighter than sums and differences. -/
def precedence : Operator → Nat
  | add | sub => 1
  | mul | div => 2

def combine? : Operator → Rat → Rat → Option Rat
  | add, x, y => some (x + y)
  | sub, x, y => some (x - y)
  | mul, x, y => some (x * y)
  | div, x, y => if y = 0 then none else some (x / y)

theorem symbol_eq_iff {op : Operator} {c : Char} :
    op.symbol = c ↔
      op = add ∧ c = '+' ∨ op = sub ∧ c = '-' ∨ op = mul ∧ c = '*' ∨ op = div ∧ c = '/' := by
  cases op <;> simp [symbol, eq_comm]

theorem precedence_eq_one_iff {op : Operator} : op.precedence = 1 ↔ op = add ∨ op = sub := by
  cases op <;> simp [precedence]

theorem precedence_eq_two_iff {op : Operator} : op.precedence = 2 ↔ op = mul ∨ op = div := by
  cases op <;> simp [precedence]

theorem precedence_eq_two {op : Operator} (h : op.precedence ≠ 1) : op.precedence = 2 := by
  cases op <;> simp_all [precedence]

theorem isSome_ofSymbol?_iff {c : Char} :
    (ofSymbol? c).isSome = true ↔ c ∈ ['+', '-', '*', '/'] := by
  have symbols : ['+', '-', '*', '/'] = all.map symbol := rfl
  rw [symbols, List.mem_map, ofSymbol?, List.find?_isSome]
  simp

@[simp] theorem ofSymbol?_symbol (op : Operator) : ofSymbol? op.symbol = some op := by
  cases op <;> rfl

theorem symbol_eq_of_ofSymbol? {c : Char} {op : Operator} (h : ofSymbol? c = some op) :
    op.symbol = c := by
  simpa using List.find?_some h

@[simp] theorem isDigit_symbol (op : Operator) : op.symbol.isDigit = false := by
  cases op <;> rfl

theorem ofSymbol?_of_isDigit {c : Char} (h : c.isDigit = true) : ofSymbol? c = none := by
  cases hc : ofSymbol? c with
  | none => rfl
  | some op => simp [← symbol_eq_of_ofSymbol? hc] at h

/-- The value of an operation, if it has one, is that of the rational operation of its name. -/
theorem combine?_eq_some_iff {op : Operator} {x y z : Rat} :
    op.combine? x y = some z ↔
      op = add ∧ x + y = z ∨ op = sub ∧ x - y = z ∨ op = mul ∧ x * y = z ∨
        op = div ∧ y ≠ 0 ∧ x / y = z := by
  cases op <;> simp [combine?]

theorem combine?_eq_none_iff {op : Operator} {x y : Rat} :
    op.combine? x y = none ↔ op = div ∧ y = 0 := by
  cases op <;> simp [combine?]

end Operator

end ExactCalc
