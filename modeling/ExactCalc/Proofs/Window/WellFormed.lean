import ExactCalc.Proofs.Window.History
import ExactCalc.Window.Drawing

/-!
# Well-formed windows

The fields of a window depend on each other. The number of digits has a limit, the reading and the
working are there together or not at all, and they are never there together with an error. No action
breaks this, whatever texts and numbers are set from outside: clearing, evaluating and setting
results write all of these fields at once, and every other action leaves the results alone.
-/

namespace ExactCalc.Window

/-- A reading comes without an error, and there is no working without a reading. -/
structure Results.IsCoherent (results : Results) : Prop where
  of_no_reading : results.hasReading = false → results.reading = "" ∧ results.working = {}
  of_reading : results.hasReading = true → results.error = ""

theorem Results.isCoherent_empty : ({} : Results).IsCoherent :=
  ⟨fun _ ↦ ⟨rfl, rfl⟩, nofun⟩

theorem Results.isCoherent_after (results : Results) (outcome : Except BadRequest Report) :
    (results.after outcome).IsCoherent := by
  cases outcome with
  | ok report => exact ⟨nofun, fun _ ↦ rfl⟩
  | error refusal => exact ⟨fun _ ↦ ⟨rfl, rfl⟩, nofun⟩

theorem isCoherent_showError (window : Window) (message : String) :
    (window.showError message).results.IsCoherent :=
  ⟨fun _ ↦ ⟨rfl, rfl⟩, nofun⟩

theorem isCoherent_showReport (window : Window) (report : Report) :
    (window.showReport report).results.IsCoherent :=
  ⟨nofun, fun _ ↦ rfl⟩

structure IsWellFormed (window : Window) : Prop where
  digits_le : window.digits ≤ Settings.maxDigits
  results : window.results.IsCoherent

namespace IsWellFormed

theorem initial (settings : Settings) : (Window.initial settings).IsWellFormed :=
  ⟨Nat.min_le_right _ _, Results.isCoherent_empty⟩

variable {session : Session}

/-- Each action writes the results as a whole or edits. -/
theorem perform (h : session.window.IsWellFormed) (action : Action) :
    (session.perform action).value.window.IsWellFormed where
  digits_le := (session.obeys_perform action).digits h.digits_le
  results := by
    cases hclears : action.clears with
    | true =>
      rw [session.results_perform_of_clears hclears]
      exact Results.isCoherent_empty
    | false =>
      cases hattempt : session.attempt? action with
      | some attempt =>
        rw [session.results_perform_of_attempt hattempt]
        exact Results.isCoherent_after _ _
      | none =>
        cases hsets : action.setsResults with
        | false =>
          rw [(session.edits_perform hclears hattempt hsets).results]
          exact h.results
        | true =>
          cases action with
          | showError message => exact isCoherent_showError session.window message
          | showReport report => exact isCoherent_showReport session.window report
          | _ => simp [Action.setsResults] at hsets

theorem performAll (h : session.window.IsWellFormed) (actions : List Action) :
    (session.performAll actions).value.window.IsWellFormed := by
  induction actions generalizing session with
  | nil => exact h
  | cons action rest ih => exact ih (h.perform action)

/-- The number of digits fits into 32 bits. -/
theorem digits_mod {window : Window} (h : window.IsWellFormed) :
    window.digits % 2 ^ 32 = window.digits :=
  Nat.mod_eq_of_lt (h.digits_le.trans_lt (by decide))

theorem hasReading_of_error {window : Window} (h : window.IsWellFormed) (herror : window.error ≠ "") :
    window.hasReading = false := by
  by_contra hreading
  exact herror (h.results.of_reading (Bool.eq_true_of_not_eq_false hreading))

end IsWellFormed

/-- The texts from the title down to the buttons. -/
def Session.controlTexts (session : Session) : List String :=
  [title] ++ session.window.entryTexts ++ clearingTexts ++ session.digitsTexts ++
    (symbolButtons ++ padButtons).map Button.label

/-- Below an error the window names its fields, but all that it fills in is an exact value. -/
theorem Session.texts_of_error {session : Session} (h : session.window.IsWellFormed)
    (herror : session.window.error ≠ "") :
    session.texts = (session.controlTexts ++ [session.window.error] ++
      ["EXACT :", session.window.exact, "Décimal :", "indisponible"] ++
      ["Démarche", "Nettoyée :", "RPN :", "Note :"]).filter (· ≠ "") := by
  have hreading := h.hasReading_of_error herror
  have hworking : session.window.working = {} := (h.results.of_no_reading hreading).2
  have hlabels : (workingTexts {}).filter (· ≠ "") =
      ["Démarche", "Nettoyée :", "RPN :", "Note :"].filter (· ≠ "") := by
    decide
  rw [texts, resultTexts, hreading, hworking, List.filter_append, hlabels, ← List.filter_append]
  rfl

/-- Whatever happens to a new window, also from outside, its number of digits fits the field for it,
and there is a reading or an error, never both: without a reading nothing is left of the working
either, and what is drawn below an error is at most an exact value. -/
theorem window_stays_well_formed (settings : Settings) (actions : List Action) :
    let session : Session := ((⟨Window.initial settings, .nowhere⟩ : Session).performAll actions).value
    let window := session.window
    (window.digits ≤ 200 ∧ window.digits % 2 ^ 32 = window.digits) ∧
    (window.hasReading = false → window.reading = "" ∧
      window.working.cleaned = "" ∧ window.working.program = "" ∧ window.working.note = "") ∧
    (window.hasReading = true → window.error = "") ∧
    (window.error ≠ "" →
      session.texts = (session.controlTexts ++ [window.error] ++
        ["EXACT :", window.exact, "Décimal :", "indisponible"] ++
        ["Démarche", "Nettoyée :", "RPN :", "Note :"]).filter (· ≠ "")) := by
  intro session window
  have hinitial : (⟨Window.initial settings, .nowhere⟩ : Session).window.IsWellFormed :=
    .initial settings
  have h : window.IsWellFormed := hinitial.performAll actions
  refine ⟨⟨h.digits_le, h.digits_mod⟩, fun hnone ↦ ?_, h.results.of_reading,
    Session.texts_of_error h⟩
  obtain ⟨hreading, hworking⟩ := h.results.of_no_reading hnone
  have hempty : window.working = {} := hworking
  exact ⟨hreading, by simp [hempty]⟩

/-- An error that is set over a report and its reading, with far too many digits before. -/
theorem window_stays_well_formed_error_over_report :
    let actions : List Action := [.typeText "7/3", .setDigits (2 ^ 32 + 7), .click .evaluate,
      .showReport ⟨"1", "1.0", ⟨"1", "1", "note"⟩⟩, .showError "error"]
    let session : Session :=
      ((⟨Window.initial ⟨4096, 2 ^ 64⟩, .nowhere⟩ : Session).performAll actions).value
    let window := session.window
    (window.digits ≤ 200 ∧ window.digits % 2 ^ 32 = window.digits) ∧
    (window.hasReading = false ∧ window.reading = "" ∧
      window.working.cleaned = "" ∧ window.working.program = "" ∧ window.working.note = "") ∧
    window.error ≠ "" ∧
      session.texts = (session.controlTexts ++ [window.error] ++
        ["EXACT :", window.exact, "Décimal :", "indisponible"] ++
        ["Démarche", "Nettoyée :", "RPN :", "Note :"]).filter (· ≠ "") := by
  intro actions session window
  obtain ⟨hdigits, hnone, -, hdrawn⟩ := window_stays_well_formed ⟨4096, 2 ^ 64⟩ actions
  have hreading : window.hasReading = false := rfl
  have herror : window.error ≠ "" := by
    have hmessage : window.error = "error" := rfl
    rw [hmessage]
    decide
  exact ⟨hdigits, ⟨hreading, hnone hreading⟩, herror, hdrawn herror⟩

end ExactCalc.Window
