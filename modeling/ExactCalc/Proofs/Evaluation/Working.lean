import ExactCalc.Proofs.Infix.Cleaning
import ExactCalc.Proofs.Rpn.Text
import ExactCalc.Proofs.Service.Acceptance

/-!
# The steps shown in a report

The texts in a report are about one evaluation. Its cleaned expression is evaluated to the same
report, since it is clean already. Its program is the one that the cleaned expression is converted
to, and can be read back from its text and run; its value is the one in both readings.
-/

namespace ExactCalc

open Rpn (Program Token)

namespace Evaluation

variable {text : String} {evaluation : Evaluation}

/-- An evaluation starts again from its cleaned expression. -/
theorem ofText_cleaned (h : ofText text = .ok evaluation) :
    ofText (String.ofList evaluation.cleaned) = .ok evaluation := by
  obtain ⟨hclean, hprogram, hresult, hrange⟩ := ofText_eq_ok_iff.mp h
  refine ofText_eq_ok_iff.mpr ⟨?_, hprogram, hresult, hrange⟩
  rw [String.toList_ofList]
  exact Infix.clean_of_clean hclean

/-- A program without tokens leaves no value. -/
theorem program_ne_nil (h : ofText text = .ok evaluation) : evaluation.program ≠ [] := by
  obtain ⟨-, -, hresult, -⟩ := ofText_eq_ok_iff.mp h
  intro hnil
  rw [hnil] at hresult
  contradiction

theorem opening_notMem_program (h : ofText text = .ok evaluation) :
    Token.opening ∉ evaluation.program := by
  obtain ⟨-, hprogram, -, -⟩ := ofText_eq_ok_iff.mp h
  obtain ⟨d, -, hlisting⟩ := Infix.toPostfix_eq_ok_iff.mp hprogram
  rw [← hlisting]
  exact d.tree.opening_notMem_postOrder

end Evaluation

/-- The cleaned expression of a report has the same report, and the program of the report, read
token by token from its text, is that of the cleaned expression and runs to the value of the
readings. -/
theorem report_working_agrees (text : String) (digits : Nat) (report : Report)
    (h : (evaluateReport text digits).value = .ok report) :
    (evaluateReport report.working.cleaned digits).value = .ok report ∧
      ∃ program v, Program.ofText? report.working.program = some program ∧
        Token.opening ∉ program ∧ program.evaluate = .ok v ∧
        Reading.exact v = report.exact ∧ Reading.decimal v digits = report.reading ∧
        Infix.toPostfix report.working.cleaned.toList = .ok program := by
  obtain ⟨evaluation, hevaluation, rfl⟩ := value_evaluateReport_eq_ok_iff.mp h
  obtain ⟨-, hprogram, hresult, -⟩ := Evaluation.ofText_eq_ok_iff.mp hevaluation
  refine ⟨?_, evaluation.program, evaluation.value, ?_, ?_, hresult, rfl, rfl, ?_⟩
  · have hagain := Evaluation.ofText_cleaned hevaluation
    exact value_evaluateReport_eq_ok_iff.mpr ⟨evaluation, hagain, rfl⟩
  · exact Program.ofText?_text (Evaluation.program_ne_nil hevaluation)
  · exact Evaluation.opening_notMem_program hevaluation
  · have hcleaned : (evaluation.report digits).working.cleaned.toList = evaluation.cleaned :=
      String.toList_ofList
    rwa [hcleaned]

/-- Blanks inside a number, zeros in front of one, and a negative value. -/
theorem report_working_agrees_negative_quotient :
    (evaluateReport " 0 07/(2 -5)" 3).value =
        .ok ⟨"-7/3", "-2.333", ⟨"007/(2-5)", "7 2 5 - /", Evaluation.note⟩⟩ ∧
      (evaluateReport "007/(2-5)" 3).value =
        .ok ⟨"-7/3", "-2.333", ⟨"007/(2-5)", "7 2 5 - /", Evaluation.note⟩⟩ ∧
      ∃ program v, Program.ofText? "7 2 5 - /" = some program ∧ Token.opening ∉ program ∧
        program.evaluate = .ok v ∧ Reading.exact v = "-7/3" ∧ Reading.decimal v 3 = "-2.333" ∧
        Infix.toPostfix "007/(2-5)".toList = .ok program := by
  have hreport : (evaluateReport " 0 07/(2 -5)" 3).value =
      .ok ⟨"-7/3", "-2.333", ⟨"007/(2-5)", "7 2 5 - /", Evaluation.note⟩⟩ := by decide +kernel
  have hagrees := report_working_agrees _ 3 _ hreport
  dsimp only at hagrees
  exact ⟨hreport, hagrees⟩

end ExactCalc
