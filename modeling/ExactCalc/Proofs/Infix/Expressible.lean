import ExactCalc.Proofs.Infix.Acceptance
import ExactCalc.Proofs.Rpn.Height

/-!
# Programs that an expression has

The conversion gives all balanced programs whose numbers have no sign, and no others. A balanced
program lists a tree. With every operation in parentheses the tree becomes a text, which the grammar
cannot read in another way, so its conversion is the listing of that tree again. Numbers of a text are
runs of digits, and have no sign.
-/

namespace ExactCalc

namespace Rpn.Program

/-- The numbers can be written in digits alone. -/
def IsUnsigned (program : Program) : Prop :=
  ∀ n, Token.number n ∈ program → 0 ≤ n

theorem IsUnsigned.of_append {first second : Program} (h : IsUnsigned (first ++ second)) :
    IsUnsigned first ∧ IsUnsigned second :=
  ⟨fun n hn ↦ h n (List.mem_append_left second hn), fun n hn ↦ h n (List.mem_append_right first hn)⟩

end Rpn.Program

namespace Infix

open Rpn (Program Token)

namespace Derivation

/-- An operation on two factors, at the level of its operator. -/
def operation (op : Operator) (left right : Derivation .factor) : Derivation .sum :=
  if h : op.precedence = 1 then .sum op h left.ofFactor.ofProduct right.ofFactor
  else .ofProduct (.product op (Operator.precedence_eq_two h) left.ofFactor right)

/-- The tree is written with every operation in parentheses, and without the signs of its numbers. -/
def ofTree : Expr → Derivation .factor
  | .num n => .number (Text.natText n.toNat).toList (by simp) fun _ ↦ Text.isDigit_of_mem_natText
  | .binary op left right => .group (operation op (ofTree left) (ofTree right))

theorem tree_operation (op : Operator) (left right : Derivation .factor) :
    (operation op left right).tree = .binary op left.tree right.tree := by
  unfold operation
  split <;> rfl

/-- A tree without negative numbers is the one that its text derives. -/
theorem tree_ofTree {tree : Expr} (h : tree.postOrder.IsUnsigned) : (ofTree tree).tree = tree := by
  induction tree with
  | num n =>
    have hn : (n.toNat : Int) = n := Int.toNat_of_nonneg (h n (List.mem_singleton.mpr rfl))
    calc
      (ofTree (.num n)).tree = .num (Text.numeralValue (Text.natText n.toNat).toList) := rfl
      _ = .num n := by
        rw [Text.numeralValue_natText, hn]
  | binary op left right ihl ihr =>
    rw [Expr.postOrder_binary] at h
    obtain ⟨hleft, hright⟩ := h.of_append.1.of_append
    calc
      (ofTree (.binary op left right)).tree
          = .binary op (ofTree left).tree (ofTree right).tree := tree_operation op _ _
      _ = .binary op left right := by
        rw [ihl hleft, ihr hright]

/-- The numbers of a derivation are those of its runs of digits. -/
theorem isUnsigned_postOrder {level : Level} (d : Derivation level) :
    d.tree.postOrder.IsUnsigned := by
  intro n hn
  have hmem : n ∈ d.tree.postOrder.filterMap Token.number? :=
    List.mem_filterMap.mpr ⟨.number n, hn, rfl⟩
  rw [numbers_postOrder, List.mem_map] at hmem
  obtain ⟨digits, -, rfl⟩ := hmem
  exact Int.natCast_nonneg _

end Derivation

/-- Some text is converted to the program exactly when the program is balanced and its numbers have no
sign. -/
theorem toPostfix_reaches_balanced_unsigned (program : Program) :
    (∃ text, toPostfix text = .ok program) ↔ program.IsBalanced ∧ program.IsUnsigned := by
  constructor
  · intro h
    obtain ⟨text, h⟩ := h
    obtain ⟨d, -, rfl⟩ := toPostfix_eq_ok_iff.mp h
    exact ⟨Program.isBalanced_iff.mpr ⟨d.tree, rfl⟩, d.isUnsigned_postOrder⟩
  · intro h
    obtain ⟨hbalanced, hunsigned⟩ := h
    obtain ⟨tree, rfl⟩ := Program.isBalanced_iff.mp hbalanced
    let whole : Derivation .sum := (Derivation.ofTree tree).ofFactor.ofProduct
    have htree : whole.tree = tree := Derivation.tree_ofTree hunsigned
    refine ⟨whole.chars, ?_⟩
    rw [whole.toPostfix_chars, htree]

end Infix

end ExactCalc
