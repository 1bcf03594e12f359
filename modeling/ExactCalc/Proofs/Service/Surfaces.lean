import ExactCalc.Proofs.Window.Evaluating
import Mathlib.Tactic.TFAE

/-!
# Agreement of the surfaces

A number, a response, a report and a window can be asked for the value of an expression. They accept
the same expressions and answer from the same value; an expression that one of them refuses is
refused by all of them with one refusal, whatever the cause.
-/

namespace ExactCalc.Service

open Window (Session)

section Window

variable {session : Session}

/-- The window accepts what the service accepts, whatever its number of digits is. -/
theorem error_click_evaluate_eq_empty_iff :
    (session.click .evaluate).value.window.error = "" ↔
      ∃ v, Accepts session.window.settings session.window.entry v := by
  rw [Session.window_click, ← session.settings_unfocus, ← session.entry_unfocus,
    ← exists_evaluateReport_eq_ok_iff]
  cases h : (evaluateReport session.unfocus.window.settings session.unfocus.window.entry
      session.unfocus.window.digits).value with
  | ok report => exact iff_of_true (Window.shows_evaluate h).error ⟨report, rfl⟩
  | error refusal =>
    have herror : (Window.Button.evaluate.press session.unfocus.window).value =
        session.unfocus.window.showError refusal.message := Window.error_evaluate h
    rw [herror]
    exact iff_of_false (Window.message_ne_empty refusal) (by simp)

/-- The value is read with the digits that the window has when it is evaluated. -/
theorem exists_shows_click_evaluate {v : Rat}
    (h : Accepts session.window.settings session.window.entry v) :
    ∃ report, (session.click .evaluate).value.window.Shows report ∧
      report.IsOf v (session.click .evaluate).value.window.digits := by
  have haccepts : Accepts session.unfocus.window.settings session.unfocus.window.entry v := by
    rwa [session.settings_unfocus, session.entry_unfocus]
  obtain ⟨report, hreport⟩ := exists_evaluateReport_eq_ok_iff.mpr ⟨v, haccepts⟩
  refine ⟨report, Window.shows_evaluate hreport, ?_⟩
  have hdigits : (session.click .evaluate).value.window.digits = session.unfocus.window.digits :=
    Window.digits_evaluate _
  rw [hdigits]
  exact isOf_of_accepts hreport haccepts

theorem error_click_evaluate_of_refused
    (h : ¬ ∃ v, Accepts session.window.settings session.window.entry v) :
    (session.click .evaluate).value.window.error = BadRequest.badRequest.message := by
  rw [← session.settings_unfocus, ← session.entry_unfocus] at h
  have herror : (Window.Button.evaluate.press session.unfocus.window).value =
      session.unfocus.window.showError BadRequest.badRequest.message :=
    Window.error_evaluate (evaluateReport_eq_badRequest _ h)
  rw [Session.window_click, herror]
  rfl

end Window

/-- Every surface answers from the value. -/
structure AnswersWith (settings : Settings) (text : String) (digits : Nat) (session : Session)
    (v : Rat) : Prop where
  number : ∃ answer, toAnswer v = .ok answer ∧
    (calculate settings (.ofText text)).value = .ok answer ∧
    (respond settings (.ofText text)).value = ⟨200, answer.text⟩
  report : ∃ report, (evaluateReport settings text digits).value = .ok report ∧
    report.exact = Reading.exact v ∧ report.reading = Reading.decimal v digits
  window : ∃ shown, (session.click .evaluate).value.window = shown ∧ shown.error = "" ∧
    shown.hasReading = true ∧ shown.exact = Reading.exact v ∧
    shown.reading = Reading.decimal v shown.digits

/-- Every surface gives the one refusal. -/
structure Refuses (settings : Settings) (text : String) (digits : Nat) (session : Session) :
    Prop where
  number : (calculate settings (.ofText text)).value = .error .badRequest
  response : (respond settings (.ofText text)).value = ⟨400, refusalBody⟩
  report : (evaluateReport settings text digits).value = .error .badRequest
  window : (session.click .evaluate).value.window.error = "Invalid expression provided"
  message : BadRequest.badRequest.message = "Invalid expression provided"

section Surfaces

variable {settings : Settings} {text : String} {session : Session}

theorem AnswersWith.of_accepts (digits : Nat) (hsettings : session.window.settings = settings)
    (hentry : session.window.entry = text) {v : Rat} (h : Accepts settings text v) :
    AnswersWith settings text digits session v := by
  obtain ⟨answer, hanswer, hrespond⟩ := exists_value_respond_of_accepts h
  have hcalculate := value_calculate_eq_ok_iff.mpr ⟨v, h, hanswer⟩
  obtain ⟨report, hreport⟩ :
      ∃ report, (evaluateReport settings text digits).value = .ok report :=
    exists_evaluateReport_eq_ok_iff.mpr ⟨v, h⟩
  have hof := isOf_of_accepts hreport h
  subst hsettings hentry
  obtain ⟨shown, hshows, hshown⟩ := exists_shows_click_evaluate h
  refine ⟨⟨answer, hanswer, hcalculate, hrespond⟩, ⟨report, hreport, hof.exact, hof.reading⟩,
    ⟨_, rfl, hshows.error, hshows.hasReading, ?_, ?_⟩⟩
  · rw [hshows.exact, hshown.exact]
  · rw [hshows.reading, hshown.reading]

theorem Refuses.of_not_accepts (digits : Nat) (hsettings : session.window.settings = settings)
    (hentry : session.window.entry = text) (h : ¬ ∃ v, Accepts settings text v) :
    Refuses settings text digits session := by
  subst hsettings hentry
  exact ⟨calculate_eq_badRequest h, value_respond_of_not_accepts h,
    evaluateReport_eq_badRequest digits h, error_click_evaluate_of_refused h, rfl⟩

end Surfaces

/-- The surfaces accept together, exactly the expressions that are short enough and have a value,
and answer from that value; otherwise each gives the same refusal. -/
theorem surfaces_agree (settings : Settings) (text : String) (digits : Nat) (session : Session)
    (hsettings : session.window.settings = settings) (hentry : session.window.entry = text) :
    [∃ v, Accepts settings text v,
      ∃ answer, (calculate settings (.ofText text)).value = .ok answer,
      (respond settings (.ofText text)).value.status = 200,
      ∃ report, (evaluateReport settings text digits).value = .ok report,
      (session.click .evaluate).value.window.error = ""].TFAE ∧
    (∀ v, Accepts settings text v → AnswersWith settings text digits session v) ∧
    ((¬ ∃ v, Accepts settings text v) → Refuses settings text digits session) := by
  refine ⟨?_, fun v ↦ .of_accepts digits hsettings hentry,
    .of_not_accepts digits hsettings hentry⟩
  tfae_have 1 ↔ 2 := exists_calculate_eq_ok_iff.symm
  tfae_have 1 ↔ 3 := status_respond_eq_okStatus_iff.symm
  tfae_have 1 ↔ 4 := exists_evaluateReport_eq_ok_iff.symm
  tfae_have 1 ↔ 5 := by
    rw [error_click_evaluate_eq_empty_iff, hsettings, hentry]
  tfae_finish

/-- A window with a third in its entry, and one whose entry is longer than the limit. -/
theorem surfaces_agree_third_and_overlong :
    AnswersWith {} "1/3" 5 ((Session.start {}).update (·.setEntry "1/3")) (1 / 3) ∧
      Refuses ⟨4, 20⟩ "12/03" 5 ((Session.start ⟨4, 20⟩).update (·.setEntry "12/03")) := by
  constructor
  · have haccepts : Accepts {} "1/3" (1 / 3) := ⟨by decide, by decide +kernel⟩
    exact (surfaces_agree {} "1/3" 5 _ rfl rfl).2.1 _ haccepts
  · have hrefused : ¬ ∃ v, Accepts ⟨4, 20⟩ "12/03" v := by
      intro h
      obtain ⟨v, h⟩ := h
      exact absurd h.within (by decide)
    exact (surfaces_agree ⟨4, 20⟩ "12/03" 5 _ rfl rfl).2.2 hrefused

end ExactCalc.Service
