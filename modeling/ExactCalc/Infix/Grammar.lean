import ExactCalc.Expr
import ExactCalc.Text.Numeral

/-!
# The grammar of expressions

A sum is a product, or a sum followed by `+` or `-` and a product; a product is a factor, or a
product followed by `*` or `/` and a factor; a factor is a run of digits or a sum in parentheses.
Each derivation carries the tree it builds, in which operators of one level associate to the left.
-/

namespace ExactCalc.Infix

inductive Level
  | sum
  | product
  | factor
  deriving DecidableEq

/-- The text derives the tree at the level. -/
inductive Derives : Level → List Char → Expr → Prop
  | number {digits : List Char} (ne_nil : digits ≠ []) (isDigit : ∀ c ∈ digits, c.isDigit = true) :
      Derives .factor digits (.num (Text.numeralValue digits))
  | group {text : List Char} {tree : Expr} :
      Derives .sum text tree → Derives .factor ('(' :: text ++ [')']) tree
  | ofFactor {text : List Char} {tree : Expr} :
      Derives .factor text tree → Derives .product text tree
  | ofProduct {text : List Char} {tree : Expr} :
      Derives .product text tree → Derives .sum text tree
  | product {text₁ text₂ : List Char} {tree₁ tree₂ : Expr} {op : Operator}
      (binds : op.precedence = 2) :
      Derives .product text₁ tree₁ → Derives .factor text₂ tree₂ →
      Derives .product (text₁ ++ op.symbol :: text₂) (.binary op tree₁ tree₂)
  | sum {text₁ text₂ : List Char} {tree₁ tree₂ : Expr} {op : Operator}
      (binds : op.precedence = 1) :
      Derives .sum text₁ tree₁ → Derives .product text₂ tree₂ →
      Derives .sum (text₁ ++ op.symbol :: text₂) (.binary op tree₁ tree₂)

/-- A factor is a number in decimal digits, or a sum between `(` and `)`. -/
theorem derives_factor_iff {text : List Char} {tree : Expr} :
    Derives .factor text tree ↔
      text ≠ [] ∧ (∀ c ∈ text, c.isDigit = true) ∧ tree = .num (Text.numeralValue text) ∨
        ∃ inner, text = '(' :: inner ++ [')'] ∧ Derives .sum inner tree := by
  constructor
  · intro h
    cases h with
    | number ne_nil isDigit => exact Or.inl ⟨ne_nil, isDigit, rfl⟩
    | group inner => exact Or.inr ⟨_, rfl, inner⟩
  · rintro (⟨ne_nil, isDigit, rfl⟩ | ⟨inner, rfl, h⟩)
    · exact .number ne_nil isDigit
    · exact .group h

/-- A product is a factor, or goes on behind a product with `*` or `/`. -/
theorem derives_product_iff {text : List Char} {tree : Expr} :
    Derives .product text tree ↔
      Derives .factor text tree ∨
        ∃ text₁ tree₁ text₂ tree₂, Derives .product text₁ tree₁ ∧ Derives .factor text₂ tree₂ ∧
          (text = text₁ ++ '*' :: text₂ ∧ tree = .binary .mul tree₁ tree₂ ∨
            text = text₁ ++ '/' :: text₂ ∧ tree = .binary .div tree₁ tree₂) := by
  constructor
  · intro h
    cases h with
    | ofFactor h => exact Or.inl h
    | product binds left right =>
      refine Or.inr ⟨_, _, _, _, left, right, ?_⟩
      rcases Operator.precedence_eq_two_iff.mp binds with rfl | rfl
      · exact Or.inl ⟨rfl, rfl⟩
      · exact Or.inr ⟨rfl, rfl⟩
  · rintro (h | ⟨text₁, tree₁, text₂, tree₂, left, right, ⟨rfl, rfl⟩ | ⟨rfl, rfl⟩⟩)
    · exact .ofFactor h
    · exact .product (rfl : Operator.mul.precedence = 2) left right
    · exact .product (rfl : Operator.div.precedence = 2) left right

/-- A sum is a product, or goes on behind a sum with `+` or `-`. -/
theorem derives_sum_iff {text : List Char} {tree : Expr} :
    Derives .sum text tree ↔
      Derives .product text tree ∨
        ∃ text₁ tree₁ text₂ tree₂, Derives .sum text₁ tree₁ ∧ Derives .product text₂ tree₂ ∧
          (text = text₁ ++ '+' :: text₂ ∧ tree = .binary .add tree₁ tree₂ ∨
            text = text₁ ++ '-' :: text₂ ∧ tree = .binary .sub tree₁ tree₂) := by
  constructor
  · intro h
    cases h with
    | ofProduct h => exact Or.inl h
    | sum binds left right =>
      refine Or.inr ⟨_, _, _, _, left, right, ?_⟩
      rcases Operator.precedence_eq_one_iff.mp binds with rfl | rfl
      · exact Or.inl ⟨rfl, rfl⟩
      · exact Or.inr ⟨rfl, rfl⟩
  · rintro (h | ⟨text₁, tree₁, text₂, tree₂, left, right, ⟨rfl, rfl⟩ | ⟨rfl, rfl⟩⟩)
    · exact .ofProduct h
    · exact .sum (rfl : Operator.add.precedence = 1) left right
    · exact .sum (rfl : Operator.sub.precedence = 1) left right

/-- A word of the grammar. -/
def IsExpression (text : List Char) : Prop :=
  ∃ tree, Derives .sum text tree

end ExactCalc.Infix
