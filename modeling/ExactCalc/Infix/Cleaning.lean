import ExactCalc.Infix.Lexeme
import ExactCalc.Rejection
import ExactCalc.Text.Blank

/-!
# Cleaning an expression

A text has to hold more than the blanks at its ends. Blanks are dropped wherever they stand, also
between two digits, and what is left has to be written in the alphabet of expressions; its structure
is not looked at.
-/

namespace ExactCalc.Infix

def clean (text : List Char) : Except Rejection (List Char) :=
  if (Text.trimBlanks text).isEmpty then .error .blank
  else
    let cleaned := Text.dropBlanks text
    match cleaned.find? (!isExpressionChar ·) with
    | some c => .error (.forbidden c)
    | none => .ok cleaned

theorem clean_eq_ok_iff {text cleaned : List Char} :
    clean text = .ok cleaned ↔
      cleaned = Text.dropBlanks text ∧ cleaned ≠ [] ∧ ∀ c ∈ cleaned, isExpressionChar c = true := by
  unfold clean
  dsimp only
  by_cases hnil : Text.dropBlanks text = []
  · simp +contextual [Text.trimBlanks_eq_nil_iff, hnil]
  · cases hfind : (Text.dropBlanks text).find? (!isExpressionChar ·) with
    | some c =>
      have hmem := List.mem_of_find?_eq_some hfind
      have hc : isExpressionChar c = false := by simpa using List.find?_some hfind
      simp only [List.isEmpty_iff, Text.trimBlanks_eq_nil_iff, hnil, if_false, reduceCtorEq,
        false_iff]
      rintro ⟨rfl, -, hall⟩
      rw [hall c hmem] at hc
      exact absurd hc (by simp)
    | none =>
      have hall : ∀ c ∈ Text.dropBlanks text, isExpressionChar c = true := by
        simpa using List.find?_eq_none.mp hfind
      simp only [List.isEmpty_iff, Text.trimBlanks_eq_nil_iff, hnil, if_false, Except.ok.injEq]
      constructor
      · rintro rfl
        exact ⟨rfl, hnil, hall⟩
      · rintro ⟨rfl, -, -⟩
        rfl

end ExactCalc.Infix
