import ExactCalc.Infix.Lexeme
import ExactCalc.Rejection
import ExactCalc.Rpn.Token

/-!
# From infix to postfix

One pass over the lexemes emits numbers at once and holds operators back until one that binds no
tighter, a closing parenthesis or the end of the text releases them. Held operators are kept by
parenthesis: those of the innermost open one apart from those of the ones around it.
-/

namespace ExactCalc.Infix

open Rpn (Token Program)

/-- The conversion between two lexemes. -/
structure Yard where
  /-- The tokens emitted so far, latest first. -/
  emitted : Program
  /-- The operators held back in the innermost open parenthesis, latest first. -/
  pending : List Operator
  /-- The operators held back around each open parenthesis, innermost first. -/
  enclosing : List (List Operator)
  /-- An operand has to come next, not an operator. -/
  awaitsOperand : Bool
  /-- How many characters have been read. -/
  position : Nat

namespace Yard

def start : Yard := ⟨[], [], [], true, 0⟩

/-- Emits the operators in the order given. -/
def emit (operators : List Operator) (emitted : Program) : Program :=
  (operators.map Token.operator).reverse ++ emitted

/-- The digits are read when an operand is due. -/
def number (yard : Yard) (digits : List Char) : Except Rejection Yard :=
  if yard.awaitsOperand then
    match Text.readNumeral? digits with
    | some n =>
      .ok { yard with
        emitted := .number n :: yard.emitted
        awaitsOperand := false
        position := yard.position + digits.length }
    | none => .error (.invalidNumber (String.ofList digits))
  else .error (.unexpectedOperand yard.position)

def opening (yard : Yard) : Except Rejection Yard :=
  if yard.awaitsOperand then
    .ok { yard with
      pending := []
      enclosing := yard.pending :: yard.enclosing
      position := yard.position + 1 }
  else .error (.unexpectedOperand yard.position)

/-- The operators of the parenthesis are released. -/
def closing (yard : Yard) : Except Rejection Yard :=
  if yard.awaitsOperand then .error (.missingOperand yard.position)
  else match yard.enclosing with
    | [] => .error .unbalanced
    | outer :: enclosing =>
      .ok { yard with
        emitted := emit yard.pending yard.emitted
        pending := outer
        enclosing
        position := yard.position + 1 }

/-- The operators that bind at least as tight are released first. -/
def operator (yard : Yard) (op : Operator) : Except Rejection Yard :=
  if yard.awaitsOperand then .error (.missingOperand yard.position)
  else
    let binds := fun held : Operator ↦ decide (op.precedence ≤ held.precedence)
    .ok { yard with
      emitted := emit (yard.pending.takeWhile binds) yard.emitted
      pending := op :: yard.pending.dropWhile binds
      awaitsOperand := true
      position := yard.position + 1 }

def step (yard : Yard) : Lexeme → Except Rejection Yard
  | .number digits => yard.number digits
  | .opening => yard.opening
  | .closing => yard.closing
  | .operator op => yard.operator op
  | .stray c => .error (.forbidden c)

/-- At the end of the text an operand may still be due, or a parenthesis open. -/
def finish (yard : Yard) : Except Rejection Program :=
  if yard.awaitsOperand then .error (.missingOperand yard.position)
  else match yard.enclosing with
    | [] => .ok (emit yard.pending yard.emitted).reverse
    | _ :: _ => .error .unbalanced

def run (lexemes : List Lexeme) (yard : Yard) : Except Rejection Yard :=
  lexemes.foldlM step yard

/-- Every run of digits is a numeral. -/
theorem number_of_isScanned (yard : Yard) {digits : List Char}
    (h : (Lexeme.number digits).IsScanned) :
    yard.number digits =
      if yard.awaitsOperand then
        .ok { yard with
          emitted := .number (Text.numeralValue digits) :: yard.emitted
          awaitsOperand := false
          position := yard.position + digits.length }
      else .error (.unexpectedOperand yard.position) := by
  rw [number, Text.readNumeral?_of_isDigit h.1 h.2]

theorem number_eq_ok_iff {yard after : Yard} {digits : List Char} :
    yard.number digits = .ok after ↔
      yard.awaitsOperand = true ∧ ∃ n, Text.readNumeral? digits = some n ∧
        after = { yard with
          emitted := .number n :: yard.emitted
          awaitsOperand := false
          position := yard.position + digits.length } := by
  cases awaits : yard.awaitsOperand <;> cases read : Text.readNumeral? digits <;>
    simp [number, awaits, read, eq_comm]

theorem finish_eq_ok_iff {yard : Yard} {program : Program} :
    yard.finish = .ok program ↔ yard.awaitsOperand = false ∧ yard.enclosing = [] ∧
      (emit yard.pending yard.emitted).reverse = program := by
  cases awaits : yard.awaitsOperand <;> cases enclosing : yard.enclosing <;>
    simp [finish, awaits, enclosing]

@[simp] theorem run_nil (yard : Yard) : yard.run [] = .ok yard := rfl

theorem run_cons (lexeme : Lexeme) (lexemes : List Lexeme) (yard : Yard) :
    yard.run (lexeme :: lexemes) = yard.step lexeme >>= run lexemes := rfl

theorem run_singleton (lexeme : Lexeme) (yard : Yard) : yard.run [lexeme] = yard.step lexeme := by
  rw [run_cons]
  cases yard.step lexeme <;> rfl

theorem run_append (first second : List Lexeme) (yard : Yard) :
    yard.run (first ++ second) = yard.run first >>= run second :=
  List.foldlM_append

end Yard

def toPostfix (text : List Char) : Except Rejection Program :=
  Yard.start.run (Lexeme.scan text) >>= Yard.finish

end ExactCalc.Infix
