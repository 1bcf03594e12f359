import ExactCalc.Proofs.Window.History

/-!
# The two sides of a window

A window has an entry on one side and results with a number of digits on the other. An operation
works on one side and leaves the other alone; only a reset works on both. So the entry at the end of
a run is decided by the operations on it, whatever evaluations, clearings of the results and changes
of the number of digits come in between.

A click may be more than one operation: the digits field stores its number when the mouse takes the
keyboard away from it, and the button acts afterwards.
-/

namespace ExactCalc.Window

/-- What can be done to a window, apart from the keyboard and from results that are set from outside.
The escape key does what the button for clearing the entry does. -/
inductive Operation
  | press (button : Button)
  | setEntry (text : String)
  | setDigits (digits : Nat)
  | storeDigits (text : String)
  deriving DecidableEq

namespace Operation

def run (window : Window) : Operation → Window
  | press button => (button.press window).value
  | setEntry text => window.setEntry text
  | setDigits digits => window.setDigits digits
  | storeDigits text => window.storeDigits text

def runAll (window : Window) (operations : List Operation) : Window :=
  operations.foldl run window

/-- Evaluations, clearing of the results and changes of the number of digits. -/
def sparesEntry : Operation → Bool
  | press .evaluate | press .clearResults | setDigits _ | storeDigits _ => true
  | _ => false

/-- Keys, deleting, clearing of the entry and setting its text. -/
def sparesResults : Operation → Bool
  | press (.key _) | press .deleteLast | press .clearEntry | setEntry _ => true
  | _ => false

/-- What an operation makes of the entry. -/
def entryAfter (entry : String) : Operation → String
  | press (.key k) => String.ofList (Entry.insert entry.toList k)
  | press .deleteLast => String.ofList (Entry.deleteLast entry.toList)
  | press .clearEntry | press .reset => ""
  | setEntry text => text
  | _ => entry

section Run

variable (window : Window) (operation : Operation)

theorem entry_run : (operation.run window).entry = operation.entryAfter window.entry := by
  cases operation with
  | press button =>
    cases button with
    | evaluate => exact entry_evaluate window
    | _ => rfl
  | _ => rfl

theorem settings_run : (operation.run window).settings = window.settings := by
  cases operation with
  | press button => exact (Session.obeys_press window button).settings
  | _ => rfl

end Run

variable {window : Window} {operation : Operation}

theorem entryAfter_of_sparesEntry (h : operation.sparesEntry = true) (entry : String) :
    operation.entryAfter entry = entry := by
  cases operation with
  | press button =>
    cases button with
    | evaluate => rfl
    | clearResults => rfl
    | _ => simp [sparesEntry] at h
  | setEntry text => simp [sparesEntry] at h
  | _ => rfl

theorem entry_run_of_sparesEntry (h : operation.sparesEntry = true) :
    (operation.run window).entry = window.entry := by
  rw [entry_run, entryAfter_of_sparesEntry h]

theorem run_of_sparesResults (h : operation.sparesResults = true) :
    (operation.run window).results = window.results ∧
      (operation.run window).digits = window.digits := by
  cases operation with
  | press button =>
    cases button with
    | key k => exact ⟨(edits_insert window k).results, digits_insert window k⟩
    | deleteLast => exact ⟨(edits_deleteLast window).results, digits_deleteLast window⟩
    | clearEntry => exact ⟨(edits_clearEntry window).results, rfl⟩
    | _ => simp [sparesResults] at h
  | setEntry text => exact ⟨(edits_setEntry window text).results, rfl⟩
  | _ => simp [sparesResults] at h

/-- There is one operation on both sides. -/
theorem spares_of_ne_reset (h : operation ≠ press .reset) :
    operation.sparesEntry = true ∨ operation.sparesResults = true := by
  cases operation with
  | press button =>
    cases button with
    | reset => exact absurd rfl h
    | evaluate => exact .inl rfl
    | clearResults => exact .inl rfl
    | _ => exact .inr rfl
  | setEntry text => exact .inr rfl
  | _ => exact .inl rfl

theorem settings_runAll (window : Window) (operations : List Operation) :
    (runAll window operations).settings = window.settings := by
  induction operations generalizing window with
  | nil => rfl
  | cons operation rest ih => exact (ih _).trans (settings_run window operation)

theorem entry_runAll (window : Window) (operations : List Operation) :
    (runAll window operations).entry = operations.foldl entryAfter window.entry := by
  induction operations generalizing window with
  | nil => rfl
  | cons operation rest ih =>
    rw [List.foldl_cons, ← entry_run]
    exact ih (operation.run window)

/-- The operations on the entry alone decide it. -/
theorem foldl_entryAfter_filter (operations : List Operation) (entry : String) :
    (operations.filter (!·.sparesEntry)).foldl entryAfter entry =
      operations.foldl entryAfter entry := by
  induction operations generalizing entry with
  | nil => rfl
  | cons operation rest ih =>
    rw [List.foldl_cons]
    cases hspares : operation.sparesEntry with
    | true =>
      rw [List.filter_cons_of_neg (by simp [hspares]), ih, entryAfter_of_sparesEntry hspares]
    | false => rw [List.filter_cons_of_pos (by simp [hspares]), List.foldl_cons, ih]

theorem foldl_entryAfter_congr {operations operations' : List Operation}
    (h : operations.filter (!·.sparesEntry) = operations'.filter (!·.sparesEntry))
    (entry : String) : operations.foldl entryAfter entry = operations'.foldl entryAfter entry := by
  rw [← foldl_entryAfter_filter operations, h, foldl_entryAfter_filter]

end Operation

/-- The wish for the keyboard does not matter for an evaluation. -/
theorem evaluate_setWish (window : Window) (wish : Bool) :
    ({ window with wantsFocus := wish } : Window).evaluate = window.evaluate := by
  rw [evaluate, evaluate]
  rfl

theorem evaluate_evaluate (window : Window) :
    window.evaluate.value.evaluate.value = window.evaluate.value := by
  cases h : (Service.evaluateReport window.settings window.entry window.digits).value with
  | ok report =>
    rw [evaluate_eq_showReport h]
    exact @evaluate_eq_showReport (window.showReport report) report h
  | error refusal =>
    rw [error_evaluate h]
    exact @error_evaluate (window.showError refusal.message) refusal h

/-! ## Actions of a session -/

/-- The operation that an action asks for. Typing goes where the keyboard is, so it is none, and
neither is an action without use for the entry. -/
def Action.operation? : Action → Option Operation
  | .click button => some (.press button)
  | .enter => some (.press .evaluate)
  | .escape | .clearEntry => some (.press .clearEntry)
  | .editDigits text => some (.storeDigits text)
  | .setEntry text => some (.setEntry text)
  | .setDigits digits => some (.setDigits digits)
  | .clearResults => some (.press .clearResults)
  | .reset => some (.press .reset)
  | _ => none

namespace Session

variable (session : Session)

theorem entry_moveFocus (focus : Focus) :
    (session.moveFocus focus).window.entry = session.window.entry :=
  session.entry_unfocus

theorem entry_editDigits (text : String) :
    (session.editDigits text).window.entry = session.window.entry := by
  rw [editDigits]
  split_ifs
  · exact session.entry_moveFocus .nowhere
  · exact session.entry_moveFocus .nowhere

theorem entry_enter : session.enter.value.window.entry = session.window.entry := by
  cases hwish : session.window.wantsFocus with
  | true =>
    rw [window_enter_of_wish session hwish, entry_moveFocus]
    exact entry_evaluate session.window
  | false => rw [window_enter_of_no_wish session hwish, entry_unfocus]

theorem entry_click (button : Button) :
    (session.click button).value.window.entry =
      (Operation.press button).entryAfter session.window.entry := by
  calc
    (session.click button).value.window.entry
        = ((Operation.press button).run session.unfocus.window).entry := rfl
    _ = (Operation.press button).entryAfter session.window.entry := by
      rw [Operation.entry_run, entry_unfocus]

/-- The entry follows the operations, wherever the keyboard is. -/
theorem entry_perform {action : Action} {operation : Operation}
    (h : action.operation? = some operation) :
    (session.perform action).value.window.entry = operation.entryAfter session.window.entry := by
  cases action with
  | click button =>
    rw [← Option.some.inj h]
    exact session.entry_click button
  | enter =>
    rw [← Option.some.inj h]
    exact session.entry_enter
  | escape =>
    rw [← Option.some.inj h]
    exact entry_moveFocus ⟨session.window.clearEntry, .nowhere⟩ .entry
  | editDigits text =>
    rw [← Option.some.inj h]
    exact session.entry_editDigits text
  | setEntry text => rw [← Option.some.inj h]; rfl
  | setDigits digits => rw [← Option.some.inj h]; rfl
  | clearEntry => rw [← Option.some.inj h]; rfl
  | clearResults => rw [← Option.some.inj h]; rfl
  | reset => rw [← Option.some.inj h]; rfl
  | _ => simp [Action.operation?] at h

theorem entry_performAll {actions : List Action}
    (h : ∀ action ∈ actions, action.operation?.isSome = true) :
    (session.performAll actions).value.window.entry =
      (actions.filterMap Action.operation?).foldl Operation.entryAfter session.window.entry := by
  induction actions generalizing session with
  | nil => rfl
  | cons action rest ih =>
    obtain ⟨operation, hoperation⟩ := Option.isSome_iff_exists.mp (h action (by simp))
    have hrest : ∀ other ∈ rest, other.operation?.isSome = true :=
      fun other hother ↦ h other (List.mem_cons_of_mem action hother)
    rw [List.filterMap_cons_some hoperation, List.foldl_cons, ← session.entry_perform hoperation]
    exact ih (session.perform action).value hrest

/-- A second click on the button for evaluating changes nothing. -/
theorem click_evaluate_twice :
    ((session.click .evaluate).value.click .evaluate).value = (session.click .evaluate).value := by
  have hclick (session : Session) : (session.click .evaluate).value =
      ⟨{ session.unfocus.window.evaluate.value with wantsFocus := false }, .entry⟩ := rfl
  have hunfocus (window : Window) :
      (⟨window, .entry⟩ : Session).unfocus.window = window := rfl
  rw [hclick session, hclick, hunfocus, evaluate_setWish, evaluate_evaluate]

/-- The number of digits stays where it is, unless the digits field stores its own. -/
def KeepsDigits (after : Window) : Prop :=
  after.digits = session.window.digits ∨
    ∃ text, session.focus = .digitsField text ∧
      after.digits = (session.window.storeDigits text).digits

theorem keepsDigits_unfocus : session.KeepsDigits session.unfocus.window := by
  cases hfocus : session.focus with
  | digitsField text => exact .inr ⟨text, hfocus, by rw [unfocus, hfocus]⟩
  | nowhere => exact .inl (by rw [unfocus, hfocus])
  | entry => exact .inl (by rw [unfocus, hfocus])

theorem click_of_sparesResults {button : Button}
    (h : (Operation.press button).sparesResults = true) :
    (session.click button).value.window.results = session.window.results ∧
      session.KeepsDigits (session.click button).value.window := by
  obtain ⟨hresults, hdigits⟩ := @Operation.run_of_sparesResults session.unfocus.window _ h
  constructor
  · calc
      (session.click button).value.window.results
          = ((Operation.press button).run session.unfocus.window).results := rfl
      _ = session.window.results := by rw [hresults, session.edits_unfocus.results]
  · have hclick : (session.click button).value.window.digits = session.unfocus.window.digits :=
      hdigits
    rw [KeepsDigits, hclick]
    exact session.keepsDigits_unfocus

/-- Editing the entry leaves the results alone wherever the keyboard is. -/
theorem perform_of_sparesResults {action : Action} {operation : Operation}
    (h : action.operation? = some operation) (hspares : operation.sparesResults = true) :
    (session.perform action).value.window.results = session.window.results ∧
      session.KeepsDigits (session.perform action).value.window := by
  cases action with
  | click button =>
    rw [← Option.some.inj h] at hspares
    exact session.click_of_sparesResults hspares
  | escape => exact ⟨rfl, .inl rfl⟩
  | setEntry text => exact ⟨rfl, .inl rfl⟩
  | clearEntry => exact ⟨rfl, .inl rfl⟩
  | _ => cases h <;> simp [Operation.sparesResults] at hspares

end Session

/-- Evaluating, clearing the results and changing the number of digits leave the entry as it is, and
editing the entry leaves the results and the number of digits. Only a reset does both, and nothing
changes the settings. So the entry at the end of a run does not depend on what is done to the other
side in between, and evaluating twice is evaluating once. The same holds of what the mouse and the
keys do, wherever the keyboard is, but that a click makes the digits field store its number. -/
theorem entry_and_results_are_independent (window : Window) :
    (∀ operation : Operation, operation.sparesEntry = true →
      (operation.run window).entry = window.entry) ∧
    (∀ operation : Operation, operation.sparesResults = true →
      (operation.run window).results = window.results ∧
        (operation.run window).digits = window.digits) ∧
    (∀ refusal, Attempt.outcome window.settings ⟨window.entry, window.digits⟩ = .error refusal →
      ((Operation.press .evaluate).run window).exact = window.exact) ∧
    ((∀ operation : Operation, operation ≠ .press .reset →
      operation.sparesEntry = true ∨ operation.sparesResults = true) ∧
      ((Operation.press .reset).run window).entry = "" ∧
      ((Operation.press .reset).run window).results = {}) ∧
    (∀ operations : List Operation,
      (Operation.runAll window operations).settings = window.settings) ∧
    (∀ operations operations' : List Operation,
      operations.filter (!·.sparesEntry) = operations'.filter (!·.sparesEntry) →
      (Operation.runAll window operations).entry = (Operation.runAll window operations').entry) ∧
    window.evaluate.value.evaluate.value = window.evaluate.value ∧
    ∀ focus : Focus,
      let session : Session := ⟨window, focus⟩
      (∀ action operation, action.operation? = some operation → operation.sparesResults = true →
        (session.perform action).value.window.results = window.results ∧
          session.KeepsDigits (session.perform action).value.window) ∧
      (∀ actions actions' : List Action,
        (∀ action ∈ actions ++ actions', action.operation?.isSome = true) →
        (actions.filterMap Action.operation?).filter (!·.sparesEntry) =
          (actions'.filterMap Action.operation?).filter (!·.sparesEntry) →
        (session.performAll actions).value.window.entry =
          (session.performAll actions').value.window.entry) ∧
      ((session.click .evaluate).value.click .evaluate).value =
        (session.click .evaluate).value := by
  refine ⟨?entry, ?results, ?failed, ?reset, Operation.settings_runAll window, ?runs,
    window.evaluate_evaluate, ?sessions⟩
  case entry =>
    intro operation hspares
    exact Operation.entry_run_of_sparesEntry hspares
  case results =>
    intro operation hspares
    exact Operation.run_of_sparesResults hspares
  case failed =>
    intro refusal h
    rw [Operation.run, Button.press, error_evaluate h]
    rfl
  case reset =>
    refine ⟨?_, rfl, rfl⟩
    intro operation hne
    exact Operation.spares_of_ne_reset hne
  case runs =>
    intro operations operations' h
    rw [Operation.entry_runAll, Operation.entry_runAll, Operation.foldl_entryAfter_congr h]
  case sessions =>
    intro focus session
    refine ⟨?_, ?_, session.click_evaluate_twice⟩
    · intro action operation hoperation hspares
      exact session.perform_of_sparesResults hoperation hspares
    · intro actions actions' hactions h
      have hleft := session.entry_performAll
        fun action hmem ↦ hactions action (List.mem_append_left actions' hmem)
      have hright := session.entry_performAll
        fun action hmem ↦ hactions action (List.mem_append_right actions hmem)
      rw [hleft, hright, Operation.foldl_entryAfter_congr h]

/-- A division by zero is refused and leaves the exact value of a report. Its last digit is replaced,
with evaluations and two changes of the number of digits in between and without them. -/
theorem entry_and_results_are_independent_refused :
    let window := ((initial {}).showReport ⟨"5", "5.00", ⟨"5", "5", "note"⟩⟩).setEntry "1/0"
    let edits : List Operation := [.press .deleteLast, .press (.key (.digit 4))]
    let mixed : List Operation := [.press .evaluate, .press .deleteLast, .setDigits 7,
      .press .clearResults, .press (.key (.digit 4)), .storeDigits "3", .press .evaluate]
    (Attempt.outcome window.settings ⟨window.entry, window.digits⟩ = .error .badRequest ∧
      ((Operation.press .evaluate).run window).exact = window.exact) ∧
    (edits.filter (!·.sparesEntry) = mixed.filter (!·.sparesEntry) ∧
      (Operation.runAll window edits).entry = (Operation.runAll window mixed).entry) ∧
    window.evaluate.value.evaluate.value = window.evaluate.value := by
  intro window edits mixed
  obtain ⟨-, -, hfailed, -, -, hruns, htwice, -⟩ := entry_and_results_are_independent window
  have houtcome : Attempt.outcome window.settings ⟨window.entry, window.digits⟩ =
      .error .badRequest := by
    decide +kernel
  have hedits : edits.filter (!·.sparesEntry) = mixed.filter (!·.sparesEntry) := by decide
  exact ⟨⟨houtcome, hfailed _ houtcome⟩, ⟨hedits, hruns edits mixed hedits⟩, htwice⟩

end ExactCalc.Window
