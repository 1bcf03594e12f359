import ExactCalc.Proofs.Window.Frame

/-!
# What the window shows, and where it comes from

A window is followed together with a history that it does not hold: the evaluations performed since
its results were last cleared, each with the entry and the number of digits of its moment. What the
window shows is a function of this history. The last evaluation alone decides it, but for one text:
a refusal leaves the exact text of the last evaluation that went well.

Errors and reports that are set from outside belong to no evaluation, so runs with such actions are
left out.
-/

namespace ExactCalc.Window

/-- An evaluation, by the entry and the number of digits that it starts from. -/
structure Attempt where
  entry : String
  digits : Nat
  deriving DecidableEq

/-- The report or the refusal that an evaluation ends with. -/
def Attempt.outcome (settings : Settings) (attempt : Attempt) : Except BadRequest Report :=
  (Service.evaluateReport settings attempt.entry attempt.digits).value

def Results.after (results : Results) : Except BadRequest Report → Results
  | .ok report => ⟨report.exact, report.reading, "", true, report.working⟩
  | .error refusal => { exact := results.exact, error := refusal.message }

/-- The results after the evaluations of a history, latest first. -/
def Results.ofHistory (settings : Settings) (history : List Attempt) : Results :=
  history.foldr (fun attempt results ↦ results.after (attempt.outcome settings)) {}

namespace Action

/-- The results are cleared, alone or with everything else. -/
def clears : Action → Bool
  | .click .clearResults | .click .reset | .clearResults | .reset => true
  | _ => false

/-- The results are set from outside. -/
def setsResults : Action → Bool
  | .showError _ | .showReport _ => true
  | _ => false

end Action

namespace Session

/-- The evaluation that an action performs. A click takes the keyboard from the digits field first,
and the enter key counts while the entry still waits for the keyboard. -/
def attempt? (session : Session) : Action → Option Attempt
  | .click .evaluate => some ⟨session.window.entry, session.unfocus.window.digits⟩
  | .enter =>
    if session.window.wantsFocus then some ⟨session.window.entry, session.window.digits⟩ else none
  | _ => none

/-- The history after an action. -/
def extend (session : Session) (history : List Attempt) (action : Action) : List Attempt :=
  if action.clears then [] else (session.attempt? action).toList ++ history

/-- The history after a run. -/
def history (session : Session) (past : List Attempt) : List Action → List Attempt
  | [] => past
  | action :: rest =>
    (session.perform action).value.history (session.extend past action) rest

variable (session : Session)

theorem results_evaluate (window : Window) :
    window.evaluate.value.results =
      window.results.after (Attempt.outcome window.settings ⟨window.entry, window.digits⟩) := by
  rw [Attempt.outcome]
  cases h : (Service.evaluateReport window.settings window.entry window.digits).value with
  | ok report =>
    rw [evaluate_eq_showReport h]
    rfl
  | error refusal =>
    rw [error_evaluate h]
    rfl

theorem results_perform_of_clears {action : Action} (h : action.clears = true) :
    (session.perform action).value.window.results = {} := by
  cases action with
  | click button =>
    cases button with
    | clearResults => rfl
    | reset => rfl
    | _ => simp [Action.clears] at h
  | clearResults => rfl
  | reset => rfl
  | _ => simp [Action.clears] at h

/-- An evaluation by the mouse. The digits field has stored its number before. -/
theorem results_click_evaluate :
    (session.click .evaluate).value.window.results = session.window.results.after
      (Attempt.outcome session.window.settings
        ⟨session.window.entry, session.unfocus.window.digits⟩) := by
  calc
    (session.click .evaluate).value.window.results
        = session.unfocus.window.evaluate.value.results := rfl
    _ = session.window.results.after (Attempt.outcome session.window.settings
          ⟨session.window.entry, session.unfocus.window.digits⟩) := by
      rw [results_evaluate, session.edits_unfocus.results, session.settings_unfocus,
        session.entry_unfocus]

/-- An evaluation by the enter key. The digits field stores its number afterwards. -/
theorem results_enter (h : session.window.wantsFocus = true) :
    session.enter.value.window.results = session.window.results.after
      (Attempt.outcome session.window.settings ⟨session.window.entry, session.window.digits⟩) := by
  rw [window_enter_of_wish session h]
  calc
    (moveFocus { session with window := session.window.evaluate.value } .entry).window.results
        = session.window.evaluate.value.results :=
      (edits_moveFocus { session with window := session.window.evaluate.value } .entry).results
    _ = _ := results_evaluate session.window

theorem results_perform_of_attempt {action : Action} {attempt : Attempt}
    (h : session.attempt? action = some attempt) :
    (session.perform action).value.window.results =
      session.window.results.after (attempt.outcome session.window.settings) := by
  cases action with
  | click button =>
    cases button with
    | evaluate =>
      rw [← Option.some.inj h]
      exact session.results_click_evaluate
    | _ => simp [attempt?] at h
  | enter =>
    rw [attempt?, Option.ite_none_right_eq_some] at h
    rw [← Option.some.inj h.2]
    exact session.results_enter h.1
  | _ => simp [attempt?] at h

theorem edits_click {button : Button} (hclears : (Action.click button).clears = false)
    (hattempt : session.attempt? (.click button) = none) :
    Edits session.window (session.click button).value.window := by
  rw [window_click]
  apply session.edits_unfocus.trans
  cases button with
  | key k => exact (edits_insert _ k).trans (edits_setWish _ false)
  | deleteLast => exact (edits_deleteLast _).trans (edits_setWish _ false)
  | clearEntry => exact (edits_clearEntry _).trans (edits_setWish _ false)
  | clearResults => simp [Action.clears] at hclears
  | reset => simp [Action.clears] at hclears
  | evaluate => simp [attempt?] at hattempt

/-- What is left of the actions edits. -/
theorem edits_perform {action : Action} (hclears : action.clears = false)
    (hattempt : session.attempt? action = none) (hsets : action.setsResults = false) :
    Edits session.window (session.perform action).value.window := by
  cases action with
  | click button => exact session.edits_click hclears hattempt
  | clickEmptyPlace => exact session.edits_moveFocus .nowhere
  | typeText text => exact session.edits_typeText text
  | backspace => exact session.edits_input List.dropLast
  | enter =>
    have hwish : session.window.wantsFocus = false := by simpa [attempt?] using hattempt
    change Edits session.window session.enter.value.window
    rw [window_enter_of_no_wish session hwish]
    exact session.edits_unfocus
  | escape => exact session.edits_escape
  | editDigits text => exact session.edits_editDigits text
  | setEntry text => exact edits_setEntry session.window text
  | setDigits digits => exact edits_setDigits session.window digits
  | showError message => simp [Action.setsResults] at hsets
  | showReport report => simp [Action.setsResults] at hsets
  | clearEntry => exact edits_clearEntry session.window
  | clearResults => simp [Action.clears] at hclears
  | reset => simp [Action.clears] at hclears
  | draw => exact session.edits_draw

/-- The results after an action are those of the history after it. -/
theorem results_perform {history : List Attempt} {action : Action}
    (hsets : action.setsResults = false)
    (h : session.window.results = .ofHistory session.window.settings history) :
    (session.perform action).value.window.results =
      .ofHistory session.window.settings (session.extend history action) := by
  rw [extend]
  cases hclears : action.clears with
  | true =>
    rw [if_pos rfl]
    exact session.results_perform_of_clears hclears
  | false =>
    rw [if_neg (by simp)]
    cases hattempt : session.attempt? action with
    | some attempt =>
      rw [session.results_perform_of_attempt hattempt, h]
      rfl
    | none =>
      rw [(session.edits_perform hclears hattempt hsets).results, h]
      rfl

theorem digits_le_of_attempt {action : Action} {attempt : Attempt}
    (h : session.window.digits ≤ Settings.maxDigits)
    (hattempt : session.attempt? action = some attempt) :
    attempt.digits ≤ Settings.maxDigits := by
  cases action with
  | click button =>
    cases button with
    | evaluate =>
      rw [← Option.some.inj hattempt]
      exact session.edits_unfocus.digits h
    | _ => simp [attempt?] at hattempt
  | enter =>
    rw [attempt?, Option.ite_none_right_eq_some] at hattempt
    rw [← Option.some.inj hattempt.2]
    exact h
  | _ => simp [attempt?] at hattempt

/-- An evaluation of the history after an action is the one that the action performs or an earlier
one. -/
theorem attempt_of_mem_extend {history : List Attempt} {action : Action} {attempt : Attempt}
    (h : attempt ∈ session.extend history action) :
    session.attempt? action = some attempt ∨ attempt ∈ history := by
  rw [extend] at h
  split_ifs at h with hclears
  · simp at h
  · simpa using h

end Session

/-! ## Runs -/

/-- The window shows what follows from the history, and no evaluation of it was asked for more
digits than a reading may have. -/
structure Follows (settings : Settings) (history : List Attempt) (window : Window) : Prop where
  results : window.results = .ofHistory settings history
  settings : window.settings = settings
  digits : window.digits ≤ Settings.maxDigits
  attempts : ∀ attempt ∈ history, attempt.digits ≤ Settings.maxDigits

namespace Follows

variable {settings : Settings} {history : List Attempt} {session : Session}

theorem initial (settings : Settings) : Follows settings [] (Window.initial settings) :=
  ⟨rfl, rfl, Nat.min_le_right _ _, by simp⟩

theorem perform (h : Follows settings history session.window) {action : Action}
    (hsets : action.setsResults = false) :
    Follows settings (session.extend history action) (session.perform action).value.window where
  results := by
    rw [← h.settings]
    apply session.results_perform hsets
    rw [h.settings, h.results]
  settings := (session.obeys_perform action).settings.trans h.settings
  digits := (session.obeys_perform action).digits h.digits
  attempts := by
    intro attempt hmem
    cases session.attempt_of_mem_extend hmem with
    | inl hattempt => exact session.digits_le_of_attempt h.digits hattempt
    | inr hearlier => exact h.attempts attempt hearlier

theorem performAll (h : Follows settings history session.window) {actions : List Action}
    (hsets : ∀ action ∈ actions, action.setsResults = false) :
    Follows settings (session.history history actions)
      (session.performAll actions).value.window := by
  induction actions generalizing session history with
  | nil => exact h
  | cons action rest ih =>
    have hfirst := h.perform (hsets action (by simp))
    exact ih hfirst fun other hother ↦ hsets other (List.mem_cons_of_mem action hother)

end Follows

/-- The exact text of the latest evaluation that ended well, empty if none did. -/
def lastExact (settings : Settings) (history : List Attempt) : String :=
  let reports := history.filterMap fun attempt ↦ (attempt.outcome settings).toOption
  (reports.head?.map Report.exact).getD ""

theorem exact_ofHistory (settings : Settings) (history : List Attempt) :
    (Results.ofHistory settings history).exact = lastExact settings history := by
  induction history with
  | nil => rfl
  | cons attempt earlier ih =>
    rw [Results.ofHistory, List.foldr_cons, ← Results.ofHistory, lastExact, List.filterMap_cons]
    cases attempt.outcome settings with
    | ok report => rfl
    | error refusal => exact ih

/-- The window shows the report of an evaluation of the text, which the settings allow. -/
structure ShowsEvaluation (settings : Settings) (window : Window) (attempt : Attempt)
    (report : Report) : Prop where
  shows : window.Shows report
  evaluates : (ExactCalc.evaluateReport attempt.entry attempt.digits).value = .ok report
  within : attempt.entry.utf8ByteSize ≤ settings.lengthLimit
  digits : attempt.digits ≤ Settings.maxDigits

/-- The last evaluation of the history decides what the window shows. -/
def ShowsLast (settings : Settings) (window : Window) : List Attempt → Prop
  | [] => window.results = {}
  | attempt :: earlier =>
    match attempt.outcome settings with
    | .ok report => ShowsEvaluation settings window attempt report
    | .error refusal =>
      window.results = { exact := lastExact settings earlier, error := refusal.message }

theorem shows_of_results {window : Window} {results : Results} {report : Report}
    (h : window.results = results.after (.ok report)) : window.Shows report where
  error := congrArg Results.error h
  exact := congrArg Results.exact h
  reading := congrArg Results.reading h
  hasReading := congrArg Results.hasReading h
  working := congrArg Results.working h

theorem Follows.showsLast {settings : Settings} {history : List Attempt} {window : Window}
    (h : Follows settings history window) : ShowsLast settings window history := by
  cases history with
  | nil => exact h.results
  | cons attempt earlier =>
    have hresults : window.results =
        (Results.ofHistory settings earlier).after (attempt.outcome settings) := h.results
    rw [ShowsLast]
    cases houtcome : attempt.outcome settings with
    | ok report =>
      rw [houtcome] at hresults
      have haccepted := Service.value_withinLimit_eq_ok_iff.mp houtcome
      exact ⟨shows_of_results hresults, haccepted.2, haccepted.1, h.attempts attempt (by simp)⟩
    | error refusal =>
      rw [houtcome, Results.after, exact_ofHistory] at hresults
      exact hresults

/-- Whatever is clicked, typed and set from a new window on, the last evaluation since the results
were cleared decides what is shown. The run of a window that has been drawn starts by drawing it. -/
theorem window_shows_last_evaluation (settings : Settings) (actions : List Action)
    (hsets : ∀ action ∈ actions, action.setsResults = false) :
    let session : Session := ⟨Window.initial settings, .nowhere⟩
    ShowsLast settings (session.performAll actions).value.window
      (session.history [] actions) := by
  intro session
  have hinitial : Follows settings [] session.window := .initial settings
  exact (hinitial.performAll hsets).showsLast

/-- A division with three digits, a refusal that leaves its exact text, and another number of digits
that comes too late. -/
theorem window_shows_last_evaluation_refused :
    let session : Session := ⟨Window.initial {}, .nowhere⟩
    let actions : List Action := [.draw, .typeText "7/3", .editDigits "3", .enter, .typeText "+",
      .click .evaluate, .editDigits "5"]
    let window := (session.performAll actions).value.window
    let history := session.history [] actions
    (∀ action ∈ actions, action.setsResults = false) ∧
    history = [⟨"7/3+", 3⟩, ⟨"7/3", 3⟩] ∧
    (window.exact = "7/3" ∧ window.error = "Invalid expression provided" ∧ window.digits = 5) ∧
    ShowsLast {} window history := by
  refine ⟨by decide, ?history, ?shown, window_shows_last_evaluation {} _ (by decide)⟩
  case history => decide +kernel
  case shown => decide +kernel

end ExactCalc.Window
