import ExactCalc.Evaluation
import ExactCalc.Proofs.Infix.Cleaning

/-!
# Blanks in an expression

Blanks may be put in, taken out or exchanged anywhere in a text, also inside a number, without any
difference to its evaluation. Whether there is anything to evaluate is asked of the text between the
blanks at its ends, and what is evaluated has lost the blanks in between as well: both depend on the
other characters alone. Positions in a refusal count the characters that are left.
-/

namespace ExactCalc

theorem Infix.clean_congr {text text' : List Char}
    (h : Text.dropBlanks text = Text.dropBlanks text') : clean text = clean text' := by
  have hempty : (Text.trimBlanks text).isEmpty = (Text.trimBlanks text').isEmpty := by
    rw [Bool.eq_iff_iff, List.isEmpty_iff, List.isEmpty_iff, Text.trimBlanks_eq_nil_iff,
      Text.trimBlanks_eq_nil_iff, h]
  rw [clean, clean, hempty, h]

theorem Evaluation.ofText_congr {text text' : String}
    (h : Infix.clean text.toList = Infix.clean text'.toList) : ofText text = ofText text' := by
  rw [ofText, ofText, h]

/-- The event as it is told of another text. -/
def Event.retell (text : String) : Event → Event
  | expressionRejected _ cause => expressionRejected text cause
  | event => event

/-- The same value with its events told of another text. -/
def Traced.retell {α : Type} (text : String) (x : Traced α) : Traced α :=
  ⟨x.value, x.events.map (Event.retell text)⟩

theorem retell_hideCause {α : Type} (text text' : String) (x : Except Rejection α) :
    (hideCause text x).retell text' = hideCause text' x := by
  cases x <;> rfl

/-- Texts with the same characters apart from blanks are cleaned alike, have the same value or the
same refusal with the same cause, and the same report: the trace tells which text it was, and nothing
else differs. Cleaning leaves a text in the alphabet that is not empty, and cleaning again changes
nothing. -/
theorem blanks_make_no_difference (text text' : String) :
    (Text.dropBlanks text.toList = Text.dropBlanks text'.toList →
      Infix.clean text.toList = Infix.clean text'.toList ∧
        (evaluate text).retell text' = evaluate text' ∧
        ∀ digits, (evaluateReport text digits).retell text' = evaluateReport text' digits) ∧
    ∀ cleaned, Infix.clean text.toList = .ok cleaned →
      cleaned ≠ [] ∧ (∀ c ∈ cleaned, Infix.isExpressionChar c = true) ∧
        Infix.clean cleaned = .ok cleaned := by
  constructor
  · intro h
    have hclean := Infix.clean_congr h
    have hof := Evaluation.ofText_congr hclean
    refine ⟨hclean, ?_, fun digits ↦ ?_⟩
    · rw [evaluate, evaluate, hof, retell_hideCause]
    · rw [evaluateReport, evaluateReport, hof, retell_hideCause]
  · intro cleaned hclean
    obtain ⟨-, hne, hchars⟩ := Infix.clean_eq_ok_iff.mp hclean
    exact ⟨hne, hchars, Infix.clean_of_clean hclean⟩

/-- Different blanks, one of them inside a number, and a refusal that names a position. -/
theorem blanks_make_no_difference_inside_number :
    let text := "1 2\u2003*\n)"
    let text' := "\t12*) "
    let cleaned := ['1', '2', '*', ')']
    Text.dropBlanks text.toList = Text.dropBlanks text'.toList ∧
      (Infix.clean text.toList = Infix.clean text'.toList ∧
        (evaluate text).retell text' = evaluate text' ∧
        ∀ digits, (evaluateReport text digits).retell text' = evaluateReport text' digits) ∧
      (evaluate text').events = [.expressionRejected text' (.missingOperand 3)] ∧
      Infix.clean text.toList = .ok cleaned ∧
      cleaned ≠ [] ∧ (∀ c ∈ cleaned, Infix.isExpressionChar c = true) ∧
        Infix.clean cleaned = .ok cleaned := by
  intro text text' cleaned
  have hsame : Text.dropBlanks text.toList = Text.dropBlanks text'.toList := by decide +kernel
  have hclean : Infix.clean text.toList = .ok cleaned :=
    Infix.clean_eq_ok_iff.mpr ⟨by decide +kernel, by decide, List.all_eq_true.mp rfl⟩
  have hof : Evaluation.ofText text' = .error (.missingOperand 3) := by
    rw [Evaluation.ofText, ← Infix.clean_congr hsame, hclean]
    rfl
  have hevents : (evaluate text').events = [.expressionRejected text' (.missingOperand 3)] := by
    rw [evaluate, hof]
    rfl
  have htexts := blanks_make_no_difference text text'
  exact ⟨hsame, htexts.1 hsame, hevents, hclean, htexts.2 cleaned hclean⟩

end ExactCalc
