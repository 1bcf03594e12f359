import ExactCalc.Proofs.Infix.Acceptance
import ExactCalc.Proofs.Text.Numeral

/-!
# Chains of numbers

A chain is an expression without parentheses: numbers, and an operator between any two neighbours. It
can be calculated in one pass that never looks ahead, with a running sum, a pending sign and a current
term. Conversion and evaluation give the same value, and a division by zero exactly where the one pass
meets one.

The derivation of a chain is built from the left by the frames of an open derivation. While the chain
is read, the sum of the frame has the running sum as its value, and the product that ends with the
latest number has the current term.
-/

namespace ExactCalc.Infix

open Rpn (Program)

/-- A number as it is written, with any zeros in front. -/
structure DigitRun where
  digits : List Char
  ne_nil : digits ≠ []
  isDigit : ∀ c ∈ digits, c.isDigit = true

namespace DigitRun

def value (number : DigitRun) : Rat := Text.numeralValue number.digits

/-- The value in base ten, whose lowest digit is the last one. -/
theorem value_eq_ofDigits (number : DigitRun) :
    number.value =
      (Nat.ofDigits 10 (number.digits.reverse.map fun c ↦ c.toNat - '0'.toNat) : Nat) := by
  rw [value, Text.numeralValue_eq_ofDigits]

def factor (number : DigitRun) : Derivation .factor :=
  .number number.digits number.ne_nil number.isDigit

theorem value?_factor (number : DigitRun) : number.factor.tree.value? = some number.value := rfl

end DigitRun

/-- An operator and the number behind it. -/
structure Link where
  op : Operator
  number : DigitRun

namespace Link

def text (link : Link) : List Char := link.op.symbol :: link.number.digits

def lexemes (link : Link) : List Lexeme := [.operator link.op, .number link.number.digits]

theorem flatMap_chars_lexemes (link : Link) : link.lexemes.flatMap Lexeme.chars = link.text := by
  simp [lexemes, text, Lexeme.chars]

end Link

structure Chain where
  first : DigitRun
  links : List Link

def Chain.text (chain : Chain) : List Char :=
  chain.first.digits ++ chain.links.flatMap Link.text

/-- What is kept of the part of a chain that has been read. -/
structure Calculator where
  /-- The terms that are complete. -/
  sum : Rat
  /-- The current term is to be subtracted from the sum, not added to it. -/
  subtracts : Bool
  /-- The product that may still go on. -/
  term : Rat

namespace Calculator

def start (x : Rat) : Calculator := ⟨0, false, x⟩

def total (calculator : Calculator) : Rat :=
  if calculator.subtracts then calculator.sum - calculator.term
  else calculator.sum + calculator.term

/-- A sum or a difference completes the term; a product or a quotient makes it go on. -/
def enter (calculator : Calculator) (x : Rat) : Operator → Except Rejection Calculator
  | .add => .ok ⟨calculator.total, false, x⟩
  | .sub => .ok ⟨calculator.total, true, x⟩
  | .mul => .ok { calculator with term := calculator.term * x }
  | .div =>
    if x = 0 then .error .divisionByZero
    else .ok { calculator with term := calculator.term / x }

def enterLink (calculator : Calculator) (link : Link) : Except Rejection Calculator :=
  calculator.enter link.number.value link.op

def enterAll (calculator : Calculator) (links : List Link) : Except Rejection Calculator :=
  links.foldlM enterLink calculator

theorem enterAll_cons (calculator : Calculator) (link : Link) (links : List Link) :
    calculator.enterAll (link :: links) = calculator.enterLink link >>= (enterAll · links) := rfl

theorem enter_eq_error_iff {calculator : Calculator} {x : Rat} {op : Operator} {cause : Rejection} :
    calculator.enter x op = .error cause ↔ (op = .div ∧ x = 0) ∧ cause = .divisionByZero := by
  cases op with
  | div =>
    by_cases hx : x = 0
    · simp [enter, hx, eq_comm]
    · simp [enter, hx]
  | _ => simp [enter]

end Calculator

/-- The result of the one pass. -/
def Chain.calculate (chain : Chain) : Except Rejection Rat :=
  ((Calculator.start chain.first.value).enterAll chain.links).map Calculator.total

/-! ## Derivations of chains -/

namespace Frame

variable {frame : Frame} {factor : Derivation .factor} {op : Operator}

theorem addOperator_of_precedence_one (h : op.precedence = 1) :
    frame.addOperator factor op = ⟨some ⟨frame.sum factor, op, h⟩, none⟩ := by
  rw [addOperator, dif_pos h]

theorem addOperator_of_precedence_two (h : op.precedence = 2) :
    frame.addOperator factor op = ⟨frame.sum?, some ⟨frame.product factor, op, h⟩⟩ := by
  have hone : ¬ op.precedence = 1 := by
    rw [h]
    decide
  rw [addOperator, dif_neg hone]

/-- The sum that goes on behind the factor with the links. -/
def extend (frame : Frame) (factor : Derivation .factor) : List Link → Derivation .sum
  | [] => frame.sum factor
  | link :: links => (frame.addOperator factor link.op).extend link.number.factor links

theorem lexemes_extend (frame : Frame) (factor : Derivation .factor) (links : List Link) :
    (frame.extend factor links).lexemes =
      frame.lexemes ++ factor.lexemes ++ links.flatMap Link.lexemes := by
  induction links generalizing frame factor with
  | nil => simp [extend, lexemes_sum]
  | cons link links ih =>
    rw [extend, ih, lexemes_addOperator]
    simp [Link.lexemes, DigitRun.factor, Derivation.lexemes]

theorem value?_sum_of_none (h : frame.sum? = none) :
    (frame.sum factor).tree.value? = (frame.product factor).tree.value? := by
  obtain ⟨sum?, product?⟩ := frame
  subst h
  rfl

theorem value?_sum_of_some {left : LeftOperand .sum} (h : frame.sum? = some left) :
    (frame.sum factor).tree.value? =
      left.derivation.tree.value?.bind fun x ↦
        (frame.product factor).tree.value?.bind fun y ↦ left.op.combine? x y := by
  obtain ⟨sum?, product?⟩ := frame
  subst h
  rfl

theorem value?_product_addOperator (h : op.precedence = 2) (next : Derivation .factor) :
    ((frame.addOperator factor op).product next).tree.value? =
      (frame.product factor).tree.value?.bind fun x ↦
        next.tree.value?.bind fun y ↦ op.combine? x y := by
  rw [addOperator_of_precedence_two h]
  rfl

/-- A sum has no value if one of its two parts has none: its operator is no division. -/
theorem value?_sum_eq_none_iff :
    (frame.sum factor).tree.value? = none ↔
      (∃ left, frame.sum? = some left ∧ left.derivation.tree.value? = none) ∨
        (frame.product factor).tree.value? = none := by
  cases hsum : frame.sum? with
  | none => simp [value?_sum_of_none hsum]
  | some left =>
    have hop : left.op ≠ .div := by
      rcases Operator.precedence_eq_one_iff.mp left.binds with hadd | hsub
      · simp [hadd]
      · simp [hsub]
    rw [value?_sum_of_some hsum, ← Expr.value?_binary, Expr.value?_binary_eq_none_iff]
    simp [hop]

/-- A chain whose beginning has no value has none. -/
theorem value?_sum_addOperator_eq_none (h : (frame.sum factor).tree.value? = none)
    (next : Derivation .factor) :
    ((frame.addOperator factor op).sum next).tree.value? = none := by
  rw [value?_sum_eq_none_iff]
  by_cases hop : op.precedence = 1
  · rw [addOperator_of_precedence_one hop]
    exact Or.inl ⟨_, rfl, h⟩
  · have hbinds := Operator.precedence_eq_two hop
    rcases value?_sum_eq_none_iff.mp h with hleft | hproduct
    · rw [addOperator_of_precedence_two hbinds]
      exact Or.inl hleft
    · rw [value?_product_addOperator hbinds, hproduct]
      exact Or.inr rfl

theorem value?_extend_eq_none (h : (frame.sum factor).tree.value? = none) (links : List Link) :
    (frame.extend factor links).tree.value? = none := by
  induction links generalizing frame factor with
  | nil => exact h
  | cons link links ih => exact ih (value?_sum_addOperator_eq_none h _)

end Frame

namespace Calculator

/-- The operand in front of the current term has the running sum as its value. -/
def HasSum (calculator : Calculator) : Option (LeftOperand .sum) → Prop
  | none => calculator.sum = 0 ∧ calculator.subtracts = false
  | some left => left.derivation.tree.value? = some calculator.sum ∧
      left.op = if calculator.subtracts then .sub else .add

/-- The calculator holds the values of the frame that is closed by the factor. -/
structure Follows (calculator : Calculator) (frame : Frame) (factor : Derivation .factor) :
    Prop where
  sum : calculator.HasSum frame.sum?
  term : (frame.product factor).tree.value? = some calculator.term

variable {calculator after : Calculator} {frame : Frame} {factor : Derivation .factor}

theorem Follows.value?_sum (h : calculator.Follows frame factor) :
    (frame.sum factor).tree.value? = some calculator.total := by
  have hsum := h.sum
  cases hleft : frame.sum? with
  | none =>
    rw [hleft] at hsum
    rw [Frame.value?_sum_of_none hleft, h.term, total, hsum.1, hsum.2]
    simp
  | some left =>
    rw [hleft] at hsum
    rw [Frame.value?_sum_of_some hleft, h.term, hsum.1, hsum.2, total]
    cases calculator.subtracts <;> rfl

theorem Follows.value?_product_addOperator (h : calculator.Follows frame factor) {op : Operator}
    (hop : op.precedence = 2) (number : DigitRun) :
    ((frame.addOperator factor op).product number.factor).tree.value? =
      op.combine? calculator.term number.value := by
  rw [Frame.value?_product_addOperator hop, h.term, number.value?_factor]
  rfl

/-- Behind a sum or a difference, the number is a term of its own. -/
theorem Follows.beginTerm (h : calculator.Follows frame factor) {op : Operator}
    (hop : op.precedence = 1) {subtracts : Bool} (hsubtracts : op = if subtracts then .sub else .add)
    (number : DigitRun) :
    Follows ⟨calculator.total, subtracts, number.value⟩ (frame.addOperator factor op)
      number.factor := by
  rw [Frame.addOperator_of_precedence_one hop]
  constructor
  · exact ⟨h.value?_sum, hsubtracts⟩
  · exact number.value?_factor

/-- Behind a product or a quotient, the sum is as before. -/
theorem Follows.continueTerm (h : calculator.Follows frame factor) {op : Operator}
    (hop : op.precedence = 2) {number : DigitRun} {term : Rat}
    (hterm : op.combine? calculator.term number.value = some term) :
    Follows { calculator with term } (frame.addOperator factor op) number.factor := by
  constructor
  · rw [Frame.addOperator_of_precedence_two hop]
    exact h.sum
  · rw [h.value?_product_addOperator hop, hterm]

/-- One link further, the calculator holds the values of the frame that the link leads to. -/
theorem Follows.enterLink (h : calculator.Follows frame factor) {link : Link}
    (henter : calculator.enterLink link = .ok after) :
    after.Follows (frame.addOperator factor link.op) link.number.factor := by
  obtain ⟨op, number⟩ := link
  cases op with
  | add =>
    obtain rfl := Except.ok.inj henter
    exact h.beginTerm rfl rfl number
  | sub =>
    obtain rfl := Except.ok.inj henter
    exact h.beginTerm rfl rfl number
  | mul =>
    obtain rfl := Except.ok.inj henter
    exact h.continueTerm rfl rfl
  | div =>
    by_cases hzero : number.value = 0
    · simp [Calculator.enterLink, enter, hzero] at henter
    · have hafter : { calculator with term := calculator.term / number.value } = after := by
        simpa [Calculator.enterLink, enter, hzero] using henter
      rw [← hafter]
      apply h.continueTerm rfl
      rw [Operator.combine?, if_neg hzero]

/-- Where the calculator divides by zero, the chain read so far has no value. -/
theorem Follows.value?_sum_eq_none (h : calculator.Follows frame factor) {link : Link}
    {cause : Rejection} (henter : calculator.enterLink link = .error cause) :
    ((frame.addOperator factor link.op).sum link.number.factor).tree.value? = none := by
  obtain ⟨⟨hop, hzero⟩, -⟩ := enter_eq_error_iff.mp henter
  rw [Frame.value?_sum_eq_none_iff, hop, h.value?_product_addOperator rfl, hzero]
  exact Or.inr rfl

/-- From any place of a chain on, kept as a frame with the factor that closes it, the machine and the
calculator come to the same result. -/
theorem Follows.evaluate_extend (h : calculator.Follows frame factor) (links : List Link) :
    Program.evaluate (frame.extend factor links).tree.postOrder =
      (calculator.enterAll links).map total := by
  induction links generalizing calculator frame factor with
  | nil => exact Expr.evaluate_postOrder_eq_ok_iff.mpr h.value?_sum
  | cons link links ih =>
    rw [enterAll_cons]
    cases henter : calculator.enterLink link with
    | ok after => exact ih (h.enterLink henter)
    | error cause =>
      -- The calculator stops here, but the tree goes on with the remaining links.
      have hnone := Frame.value?_extend_eq_none (h.value?_sum_eq_none henter) links
      have hzero := Expr.value?_eq_none_iff.mp hnone
      obtain ⟨-, rfl⟩ := enter_eq_error_iff.mp henter
      exact Expr.evaluate_postOrder_eq_error_iff.mpr ⟨hzero, rfl⟩

theorem follows_start (number : DigitRun) :
    (start number.value).Follows .empty number.factor where
  sum := ⟨rfl, rfl⟩
  term := number.value?_factor

/-- The calculator stops exactly at a quotient by a number equal to zero. -/
theorem enterAll_eq_error_iff {links : List Link} {cause : Rejection} :
    calculator.enterAll links = .error cause ↔
      (∃ link ∈ links, link.op = .div ∧ link.number.value = 0) ∧ cause = .divisionByZero := by
  induction links generalizing calculator with
  | nil => simp [enterAll, pure, Except.pure]
  | cons link links ih =>
    rw [enterAll_cons]
    cases henter : calculator.enterLink link with
    | ok after =>
      have hnot : ¬ (link.op = .div ∧ link.number.value = 0) := by
        intro hzero
        rw [Calculator.enterLink, enter_eq_error_iff.mpr ⟨hzero, rfl⟩] at henter
        exact absurd henter (by simp)
      rw [Fallible.ok_bind, ih]
      simp [hnot]
    | error other =>
      obtain ⟨hzero, rfl⟩ := enter_eq_error_iff.mp henter
      simp [hzero, eq_comm]

end Calculator

namespace Chain

def derivation (chain : Chain) : Derivation .sum :=
  Frame.empty.extend chain.first.factor chain.links

theorem chars_derivation (chain : Chain) : chain.derivation.chars = chain.text := by
  rw [Derivation.chars, derivation, Frame.lexemes_extend]
  simp [Frame.empty, Frame.lexemes, DigitRun.factor, Derivation.lexemes, Lexeme.chars, text,
    List.flatMap_assoc, Link.flatMap_chars_lexemes]

/-- Conversion and evaluation of a chain give the result of the one pass, which is a division by zero
exactly when some number to divide by is zero. -/
theorem evaluates_in_one_pass (chain : Chain) :
    (∃ program, toPostfix chain.text = .ok program ∧ program.evaluate = chain.calculate) ∧
    ∀ cause, chain.calculate = .error cause ↔
      (∃ link ∈ chain.links, link.op = .div ∧ link.number.value = 0) ∧ cause = .divisionByZero := by
  constructor
  · refine ⟨chain.derivation.tree.postOrder, ?_, ?_⟩
    · rw [← chain.chars_derivation, chain.derivation.toPostfix_chars]
    · exact (Calculator.follows_start chain.first).evaluate_extend chain.links
  · intro cause
    rw [calculate, Fallible.map_eq_error, Calculator.enterAll_eq_error_iff]

end Chain

end ExactCalc.Infix
