import ExactCalc.Infix.Grammar
import ExactCalc.Infix.Lexeme

/-!
# Derivation trees

A derivation tree records how a text is built by the grammar of expressions, the digits of each
number and every pair of parentheses included. Its expression tree forgets both. The lexemes at its
leaves are exactly those that the scanner cuts its text into, so each number of the tree is a run of
digits that is as long as possible.

The grammar is unambiguous: a derivation tree is determined by its text. The split at an operator is
found from the right, where an operator that binds looser than its level can only stand inside
parentheses that are still to be closed.
-/

namespace ExactCalc.Infix

/-- Precedence of the operators that join the operands of a level; factors are joined by none. -/
def Level.precedence : Level → Nat
  | .sum => 1
  | .product => 2
  | .factor => 3

/-- The derivations of the grammar of expressions, by level. -/
inductive Derivation : Level → Type
  | number (digits : List Char) (ne_nil : digits ≠ [])
      (isDigit : ∀ c ∈ digits, c.isDigit = true) : Derivation .factor
  | group (inner : Derivation .sum) : Derivation .factor
  | ofFactor (factor : Derivation .factor) : Derivation .product
  | ofProduct (product : Derivation .product) : Derivation .sum
  | product (op : Operator) (binds : op.precedence = 2) (left : Derivation .product)
      (right : Derivation .factor) : Derivation .product
  | sum (op : Operator) (binds : op.precedence = 1) (left : Derivation .sum)
      (right : Derivation .product) : Derivation .sum

namespace Derivation

variable {level : Level}

/-- The leaves from left to right. -/
def lexemes : {level : Level} → Derivation level → List Lexeme
  | _, number digits _ _ => [.number digits]
  | _, group inner => .opening :: (inner.lexemes ++ [.closing])
  | _, ofFactor d => d.lexemes
  | _, ofProduct d => d.lexemes
  | _, product op _ left right => left.lexemes ++ .operator op :: right.lexemes
  | _, sum op _ left right => left.lexemes ++ .operator op :: right.lexemes

/-- The text that is derived. -/
def chars (d : Derivation level) : List Char :=
  d.lexemes.flatMap Lexeme.chars

/-- The expression tree, without layout. -/
def tree : {level : Level} → Derivation level → Expr
  | _, number digits _ _ => .num (Text.numeralValue digits)
  | _, group inner => inner.tree
  | _, ofFactor d => d.tree
  | _, ofProduct d => d.tree
  | _, product op _ left right => .binary op left.tree right.tree
  | _, sum op _ left right => .binary op left.tree right.tree

@[simp]
theorem chars_number (digits : List Char) (hne : digits ≠ [])
    (hdigits : ∀ c ∈ digits, c.isDigit = true) : (number digits hne hdigits).chars = digits := by
  simp [chars, lexemes, Lexeme.chars]

@[simp]
theorem chars_group (inner : Derivation .sum) :
    inner.group.chars = '(' :: (inner.chars ++ [')']) := by
  simp [chars, lexemes, Lexeme.chars]

@[simp]
theorem chars_ofFactor (d : Derivation .factor) : d.ofFactor.chars = d.chars := rfl

@[simp]
theorem chars_ofProduct (d : Derivation .product) : d.ofProduct.chars = d.chars := rfl

@[simp]
theorem chars_product (op : Operator) (hop : op.precedence = 2) (left : Derivation .product)
    (right : Derivation .factor) :
    (product op hop left right).chars = left.chars ++ op.symbol :: right.chars := by
  simp [chars, lexemes, Lexeme.chars]

@[simp]
theorem chars_sum (op : Operator) (hop : op.precedence = 1) (left : Derivation .sum)
    (right : Derivation .product) :
    (sum op hop left right).chars = left.chars ++ op.symbol :: right.chars := by
  simp [chars, lexemes, Lexeme.chars]

theorem derives (d : Derivation level) : Derives level d.chars d.tree := by
  induction d with
  | number digits hne hdigits =>
    rw [chars_number]
    exact .number hne hdigits
  | group inner ih =>
    rw [chars_group]
    exact .group ih
  | ofFactor d ih => exact .ofFactor ih
  | ofProduct d ih => exact .ofProduct ih
  | product op hop left right ihl ihr =>
    rw [chars_product]
    exact .product hop ihl ihr
  | sum op hop left right ihl ihr =>
    rw [chars_sum]
    exact .sum hop ihl ihr

/-- A text derives a tree exactly when some derivation has that text and that tree. -/
theorem derives_iff {text : List Char} {tree : Expr} :
    Derives level text tree ↔ ∃ d : Derivation level, d.chars = text ∧ d.tree = tree := by
  constructor
  · intro h
    induction h with
    | number hne hdigits => exact ⟨.number _ hne hdigits, by simp, rfl⟩
    | group _ ih =>
      obtain ⟨inner, rfl, rfl⟩ := ih
      exact ⟨inner.group, by simp, rfl⟩
    | ofFactor _ ih =>
      obtain ⟨d, rfl, rfl⟩ := ih
      exact ⟨d.ofFactor, rfl, rfl⟩
    | ofProduct _ ih =>
      obtain ⟨d, rfl, rfl⟩ := ih
      exact ⟨d.ofProduct, rfl, rfl⟩
    | product hop _ _ ihl ihr =>
      obtain ⟨left, rfl, rfl⟩ := ihl
      obtain ⟨right, rfl, rfl⟩ := ihr
      exact ⟨.product _ hop left right, by simp, rfl⟩
    | sum hop _ _ ihl ihr =>
      obtain ⟨left, rfl, rfl⟩ := ihl
      obtain ⟨right, rfl, rfl⟩ := ihr
      exact ⟨.sum _ hop left right, by simp, rfl⟩
  · intro h
    obtain ⟨d, rfl, rfl⟩ := h
    exact d.derives

theorem isExpression_iff {text : List Char} :
    IsExpression text ↔ ∃ d : Derivation .sum, d.chars = text := by
  simp only [IsExpression, derives_iff]
  constructor
  · intro h
    obtain ⟨_, d, h, _⟩ := h
    exact ⟨d, h⟩
  · intro h
    obtain ⟨d, h⟩ := h
    exact ⟨d.tree, d, h, rfl⟩

theorem chars_ne_nil (d : Derivation level) : d.chars ≠ [] := by
  induction d with
  | number digits hne hdigits => simpa using hne
  | group inner ih => simp
  | ofFactor d ih => exact ih
  | ofProduct d ih => exact ih
  | product op hop left right ihl ihr => simp
  | sum op hop left right ihl ihr => simp

theorem isExpressionChar_of_mem_chars (d : Derivation level) {c : Char} (hc : c ∈ d.chars) :
    isExpressionChar c = true := by
  induction d with
  | number digits hne hdigits =>
    rw [chars_number] at hc
    simp [isExpressionChar, hdigits c hc]
  | group inner ih =>
    simp only [chars_group, List.mem_cons, List.mem_append, List.not_mem_nil, or_false] at hc
    rcases hc with rfl | hc | rfl
    · decide
    · exact ih hc
    · decide
  | ofFactor d ih => exact ih hc
  | ofProduct d ih => exact ih hc
  | product op hop left right ihl ihr =>
    simp only [chars_product, List.mem_append, List.mem_cons] at hc
    rcases hc with hc | rfl | hc
    · exact ihl hc
    · simp [isExpressionChar_eq]
    · exact ihr hc
  | sum op hop left right ihl ihr =>
    simp only [chars_sum, List.mem_append, List.mem_cons] at hc
    rcases hc with hc | rfl | hc
    · exact ihl hc
    · simp [isExpressionChar_eq]
    · exact ihr hc

/-- The scanner cuts a derived text into the leaves of its derivation, unless what follows makes its
last number longer. -/
theorem scan_chars_append (d : Derivation level) (rest : List Char)
    (hends : ∀ c ∈ rest.head?, c.isDigit = false) :
    Lexeme.scan (d.chars ++ rest) = d.lexemes ++ Lexeme.scan rest := by
  induction d generalizing rest with
  | number digits hne hdigits =>
    rw [chars_number]
    exact Lexeme.scan_digits_append hne hdigits hends
  | group inner ih =>
    have hclosing : ∀ c ∈ (')' :: rest).head?, c.isDigit = false := by simp
    simp only [chars_group, List.cons_append, List.append_assoc, List.nil_append]
    rw [Lexeme.scan_cons_of_not_digit (by decide), ih _ hclosing,
      Lexeme.scan_cons_of_not_digit (by decide)]
    simp [lexemes, Lexeme.ofChar]
  | ofFactor d ih => exact ih rest hends
  | ofProduct d ih => exact ih rest hends
  | product op hop left right ihl ihr =>
    rw [chars_product, List.append_assoc, List.cons_append, ihl _ (by simp),
      Lexeme.scan_cons_of_not_digit op.isDigit_symbol, ihr rest hends]
    simp [lexemes]
  | sum op hop left right ihl ihr =>
    rw [chars_sum, List.append_assoc, List.cons_append, ihl _ (by simp),
      Lexeme.scan_cons_of_not_digit op.isDigit_symbol, ihr rest hends]
    simp [lexemes]

theorem scan_chars (d : Derivation level) : Lexeme.scan d.chars = d.lexemes := by
  have h := d.scan_chars_append [] (by simp)
  simpa using h

end Derivation

end ExactCalc.Infix
