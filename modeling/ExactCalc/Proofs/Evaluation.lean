import ExactCalc.Evaluation
import ExactCalc.Proofs.Double.Rounding
import ExactCalc.Proofs.Infix.Acceptance

/-!
# The value of an expression

Evaluation computes what the text denotes. Cleaning leaves the text without blanks, the conversion
lists its derivation tree, the machine runs the listing to the value of the tree, and the last step
looks at the size of that value only. Nothing is asked of the values inside the tree, except that no
divisor is zero.
-/

namespace ExactCalc

open Infix (Derives Level)

/-- The text without its blanks is an expression, its tree has the value, and the value is in the
range of doubles. -/
def Denotes (text : List Char) (v : Rat) : Prop :=
  ∃ tree, Derives .sum (Text.dropBlanks text) tree ∧ ¬ tree.HasZeroDivisor ∧
    tree.value? = some v ∧ Double.IsInRange v

namespace Evaluation

/-- An evaluation that ends well has ended well at every step, and its value is the result of its
program. -/
theorem ofText_eq_ok_iff {text : String} {evaluation : Evaluation} :
    ofText text = .ok evaluation ↔
      Infix.clean text.toList = .ok evaluation.cleaned ∧
      Infix.toPostfix evaluation.cleaned = .ok evaluation.program ∧
      evaluation.program.evaluate = .ok evaluation.value ∧ Double.IsInRange evaluation.value := by
  simp only [ofText, Fallible.bind_eq_ok, Double.requireInRange_eq_ok_iff]
  constructor
  · intro h
    obtain ⟨cleaned, hclean, program, hprogram, result, hresult, value, ⟨rfl, hrange⟩, heq⟩ := h
    obtain rfl := Except.ok.inj heq
    exact ⟨hclean, hprogram, hresult, hrange⟩
  · intro h
    obtain ⟨hclean, hprogram, hresult, hrange⟩ := h
    exact ⟨_, hclean, _, hprogram, _, hresult, _, ⟨rfl, hrange⟩, rfl⟩

/-- The evaluation ends with the value that the text denotes. -/
theorem exists_ofText_eq_ok_iff {text : String} {v : Rat} :
    (∃ evaluation, ofText text = .ok evaluation ∧ evaluation.value = v) ↔ Denotes text.toList v := by
  constructor
  · intro h
    obtain ⟨evaluation, h, rfl⟩ := h
    obtain ⟨hclean, hprogram, hresult, hrange⟩ := ofText_eq_ok_iff.mp h
    obtain ⟨d, hchars, hlisting⟩ := Infix.toPostfix_eq_ok_iff.mp hprogram
    rw [← hlisting, Expr.evaluate_postOrder_eq_ok_iff] at hresult
    rw [(Infix.clean_eq_ok_iff.mp hclean).1] at hchars
    refine ⟨d.tree, Infix.Derivation.derives_iff.mpr ⟨d, hchars, rfl⟩, ?_, hresult, hrange⟩
    rw [← Expr.value?_eq_none_iff, hresult]
    simp
  · intro h
    obtain ⟨tree, hderives, -, hvalue, hrange⟩ := h
    obtain ⟨d, hchars, rfl⟩ := Infix.Derivation.derives_iff.mp hderives
    have hclean : Infix.clean text.toList = .ok d.chars := by
      rw [Infix.clean_eq_ok_iff]
      exact ⟨hchars, d.chars_ne_nil, fun c hc ↦ d.isExpressionChar_of_mem_chars hc⟩
    have hresult : Rpn.Program.evaluate d.tree.postOrder = .ok v :=
      Expr.evaluate_postOrder_eq_ok_iff.mpr hvalue
    refine ⟨⟨d.chars, d.tree.postOrder, v⟩, ?_, rfl⟩
    rw [ofText_eq_ok_iff]
    exact ⟨hclean, d.toPostfix_chars, hresult, hrange⟩

end Evaluation

theorem value_hideCause_eq_ok_iff {α : Type} {text : String} {x : Except Rejection α} {a : α} :
    (hideCause text x).value = .ok a ↔ x = .ok a := by
  cases x <;> simp [hideCause]

theorem value_hideCause_eq_error_iff {α : Type} {text : String} {x : Except Rejection α} :
    (hideCause text x).value = .error .invalidExpression ↔
      ¬ ∃ a, (hideCause text x).value = .ok a := by
  cases x <;> simp [hideCause]

theorem value_evaluate_eq_ok_iff {text : String} {v : Rat} :
    (evaluate text).value = .ok v ↔ Denotes text.toList v := by
  rw [evaluate, value_hideCause_eq_ok_iff, Fallible.map_eq_ok,
    Evaluation.exists_ofText_eq_ok_iff]

/-- Evaluation yields what the text denotes, and the one refusal when it denotes nothing. -/
theorem evaluate_yields_denotation (text : String) :
    (∀ v, (evaluate text).value = .ok v ↔ Denotes text.toList v) ∧
      ((evaluate text).value = .error .invalidExpression ↔ ¬ ∃ v, Denotes text.toList v) := by
  refine ⟨fun v ↦ value_evaluate_eq_ok_iff, ?_⟩
  have hrefused : (evaluate text).value = .error .invalidExpression ↔
      ¬ ∃ v, (evaluate text).value = .ok v := value_hideCause_eq_error_iff
  simpa only [value_evaluate_eq_ok_iff] using hrefused

end ExactCalc
