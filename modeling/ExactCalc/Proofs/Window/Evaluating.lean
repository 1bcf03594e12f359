import ExactCalc.Proofs.Service.Acceptance
import ExactCalc.Window.Session

/-!
# Evaluating in the window

A click on the button that evaluates shows the report on the entry as it is, read with the digits of
the window, or the message of the refusal.
-/

namespace ExactCalc.Window

namespace Session

@[simp] theorem entry_unfocus (session : Session) :
    session.unfocus.window.entry = session.window.entry := by
  cases hfocus : session.focus <;> simp [unfocus, hfocus, storeDigits]

@[simp] theorem settings_unfocus (session : Session) :
    session.unfocus.window.settings = session.window.settings := by
  cases hfocus : session.focus <;> simp [unfocus, hfocus, storeDigits]

/-- Moving the keyboard where no digits field has it only takes away the wish for it. -/
theorem window_click (session : Session) (button : Button) :
    (session.click button).value.window =
      { (button.press session.unfocus.window).value with wantsFocus := false } := rfl

end Session

@[simp] theorem message_ne_empty (refusal : BadRequest) : refusal.message ≠ "" := by
  cases refusal
  decide

/-- What the window shows of an evaluation that ended well. -/
structure Shows (window : Window) (report : Report) : Prop where
  error : window.error = ""
  exact : window.exact = report.exact
  reading : window.reading = report.reading
  hasReading : window.hasReading = true
  working : window.working = report.working

section Evaluate

variable {window : Window}

theorem shows_evaluate {report : Report}
    (h : (Service.evaluateReport window.settings window.entry window.digits).value = .ok report) :
    Shows { window.evaluate.value with wantsFocus := false } report := by
  simp only [evaluate, Traced.value_map, h]
  exact ⟨rfl, rfl, rfl, rfl, rfl⟩

theorem error_evaluate {refusal : BadRequest}
    (h : (Service.evaluateReport window.settings window.entry window.digits).value =
      .error refusal) :
    window.evaluate.value = window.showError refusal.message := by
  simp only [evaluate, Traced.value_map, h]

theorem evaluate_eq_showReport {report : Report}
    (h : (Service.evaluateReport window.settings window.entry window.digits).value = .ok report) :
    window.evaluate.value = window.showReport report := by
  simp only [evaluate, Traced.value_map, h]

@[simp] theorem entry_evaluate (window : Window) : window.evaluate.value.entry = window.entry := by
  cases h : (Service.evaluateReport window.settings window.entry window.digits).value <;>
    simp [evaluate, h, showReport, showError]

@[simp] theorem digits_evaluate (window : Window) :
    window.evaluate.value.digits = window.digits := by
  cases h : (Service.evaluateReport window.settings window.entry window.digits).value <;>
    simp [evaluate, h, showReport, showError]

end Evaluate

end ExactCalc.Window
