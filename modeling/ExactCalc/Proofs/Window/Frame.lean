import ExactCalc.Proofs.Window.Evaluating

/-!
# What an action leaves alone

No action changes the settings of a window or gives it more digits than a reading may have. The
results change only when they are cleared, evaluated anew or set from outside. Every other action
edits: it changes the entry, the number of digits or the wish for the keyboard. Moving the keyboard
edits too, since a digits field that loses it stores its number.
-/

namespace ExactCalc.Window

/-- What a window shows of its evaluations. -/
structure Results where
  exact : String := ""
  reading : String := ""
  error : String := ""
  hasReading : Bool := false
  working : Working := {}
  deriving DecidableEq

def results (window : Window) : Results :=
  ⟨window.exact, window.reading, window.error, window.hasReading, window.working⟩

/-- The settings stay, and the number of digits stays within its limit. -/
structure Obeys (before after : Window) : Prop where
  settings : after.settings = before.settings
  digits : before.digits ≤ Settings.maxDigits → after.digits ≤ Settings.maxDigits

/-- The results stay as well. -/
structure Edits (before after : Window) : Prop extends Obeys before after where
  results : after.results = before.results

theorem Obeys.trans {before middle after : Window} (h : Obeys before middle)
    (h' : Obeys middle after) : Obeys before after :=
  ⟨h'.settings.trans h.settings, h'.digits ∘ h.digits⟩

theorem Edits.refl (window : Window) : Edits window window :=
  ⟨⟨rfl, id⟩, rfl⟩

theorem Edits.trans {before middle after : Window} (h : Edits before middle)
    (h' : Edits middle after) : Edits before after :=
  ⟨h.toObeys.trans h'.toObeys, h'.results.trans h.results⟩

theorem DigitsField.ofNumeral_le (numeral : Numeral) :
    DigitsField.ofNumeral numeral ≤ Settings.maxDigits := by
  cases numeral with
  | finite d =>
    rw [ofNumeral]
    split
    · exact Nat.min_le_right _ _
    · split_ifs
      · exact Nat.zero_le _
      · exact Nat.le_refl _
  | infinite negative => cases negative <;> decide
  | undefined negative => cases negative <;> decide

theorem digits_storeDigits_le {window : Window} (h : window.digits ≤ Settings.maxDigits)
    (text : String) : (window.storeDigits text).digits ≤ Settings.maxDigits := by
  simp only [storeDigits, DigitsField.read?]
  cases Numeral.read? (DigitsField.normalize text.toList) with
  | none => exact h
  | some numeral => exact DigitsField.ofNumeral_le numeral

section Window

variable (window : Window)

theorem edits_setWish (wish : Bool) : Edits window { window with wantsFocus := wish } :=
  ⟨⟨rfl, id⟩, rfl⟩

theorem edits_storeDigits (text : String) : Edits window (window.storeDigits text) :=
  ⟨⟨rfl, fun h ↦ digits_storeDigits_le h text⟩, rfl⟩

theorem edits_setDigits (digits : Nat) : Edits window (window.setDigits digits) :=
  ⟨⟨rfl, fun _ ↦ Nat.min_le_right _ _⟩, rfl⟩

theorem edits_setEntry (entry : String) : Edits window (window.setEntry entry) :=
  ⟨⟨rfl, id⟩, rfl⟩

theorem edits_insert (k : Key) : Edits window (window.insert k) :=
  (edits_setEntry window _).trans (edits_setWish _ true)

theorem edits_deleteLast : Edits window window.deleteLast :=
  (edits_setEntry window _).trans (edits_setWish _ true)

theorem digits_insert (k : Key) : (window.insert k).digits = window.digits := by
  simp only [insert, editEntry, setEntry]

theorem digits_deleteLast : window.deleteLast.digits = window.digits := by
  simp only [deleteLast, editEntry, setEntry]

theorem edits_clearEntry : Edits window window.clearEntry :=
  ⟨⟨rfl, id⟩, rfl⟩

theorem obeys_clearResults : Obeys window window.clearResults :=
  ⟨rfl, id⟩

theorem obeys_reset : Obeys window window.reset :=
  ⟨rfl, fun _ ↦ Nat.min_le_right _ _⟩

theorem obeys_showError (message : String) : Obeys window (window.showError message) :=
  ⟨rfl, id⟩

theorem obeys_showReport (report : Report) : Obeys window (window.showReport report) :=
  ⟨rfl, id⟩

theorem obeys_evaluate : Obeys window window.evaluate.value := by
  cases h : (Service.evaluateReport window.settings window.entry window.digits).value with
  | ok report =>
    rw [evaluate_eq_showReport h]
    exact obeys_showReport window report
  | error refusal =>
    rw [error_evaluate h]
    exact obeys_showError window refusal.message

end Window

namespace Session

variable (session : Session)

theorem edits_unfocus : Edits session.window session.unfocus.window := by
  cases hfocus : session.focus with
  | nowhere => simpa [unfocus, hfocus] using Edits.refl session.window
  | entry => simpa [unfocus, hfocus] using Edits.refl session.window
  | digitsField text => simpa [unfocus, hfocus] using edits_storeDigits session.window text

theorem edits_moveFocus (focus : Focus) : Edits session.window (session.moveFocus focus).window :=
  session.edits_unfocus.trans (edits_setWish _ false)

theorem edits_draw : Edits session.window session.draw.window := by
  rw [draw]
  split_ifs
  · exact session.edits_moveFocus .entry
  · exact .refl _

theorem edits_retypeDigits (text : String) :
    Edits session.window (session.retypeDigits text).window :=
  (edits_storeDigits session.window text).trans (edits_setWish _ true)

theorem edits_input (edit : List Char → List Char) :
    Edits session.window (session.input edit).window := by
  apply session.edits_draw.trans
  rw [input]
  cases session.draw.focus with
  | nowhere => exact .refl _
  | entry => exact edits_setEntry _ _
  | digitsField text => exact session.draw.edits_retypeDigits _

theorem edits_typeText (text : String) : Edits session.window (session.typeText text).window := by
  rw [typeText]
  split_ifs
  · exact session.edits_input _
  · exact session.edits_draw

theorem edits_editDigits (text : String) :
    Edits session.window (session.editDigits text).window := by
  have hopen : Edits session.window session.openDigits.window := session.edits_moveFocus .nowhere
  rw [editDigits]
  split_ifs
  · exact hopen.trans (session.openDigits.edits_retypeDigits text)
  · exact hopen

theorem edits_escape : Edits session.window session.escape.window :=
  (edits_clearEntry session.window).trans
    (edits_moveFocus ⟨session.window.clearEntry, .nowhere⟩ .entry)

theorem obeys_press (window : Window) (button : Button) :
    Obeys window (button.press window).value := by
  cases button with
  | key k => exact (edits_insert window k).toObeys
  | deleteLast => exact (edits_deleteLast window).toObeys
  | clearEntry => exact (edits_clearEntry window).toObeys
  | clearResults => exact obeys_clearResults window
  | reset => exact obeys_reset window
  | evaluate => exact obeys_evaluate window

theorem obeys_click (button : Button) :
    Obeys session.window (session.click button).value.window := by
  rw [window_click]
  apply session.edits_unfocus.toObeys.trans
  exact (obeys_press _ button).trans (edits_setWish _ false).toObeys

theorem window_enter_of_wish (h : session.window.wantsFocus = true) :
    session.enter.value.window =
      (moveFocus { session with window := session.window.evaluate.value } .entry).window := by
  rw [enter, if_pos h]
  rfl

theorem window_enter_of_no_wish (h : session.window.wantsFocus = false) :
    session.enter.value.window = session.unfocus.window := by
  rw [enter, if_neg (by simp [h])]
  rfl

theorem obeys_enter : Obeys session.window session.enter.value.window := by
  cases hwish : session.window.wantsFocus with
  | true =>
    rw [window_enter_of_wish session hwish]
    exact (obeys_evaluate session.window).trans
      (edits_moveFocus { session with window := session.window.evaluate.value } .entry).toObeys
  | false =>
    rw [window_enter_of_no_wish session hwish]
    exact session.edits_unfocus.toObeys

/-- No action changes the settings or breaks the limit on the number of digits. -/
theorem obeys_perform (action : Action) :
    Obeys session.window (session.perform action).value.window := by
  cases action with
  | click button => exact session.obeys_click button
  | clickEmptyPlace => exact (session.edits_moveFocus .nowhere).toObeys
  | typeText text => exact (session.edits_typeText text).toObeys
  | backspace => exact (session.edits_input List.dropLast).toObeys
  | enter => exact session.obeys_enter
  | escape => exact session.edits_escape.toObeys
  | editDigits text => exact (session.edits_editDigits text).toObeys
  | setEntry text => exact (edits_setEntry session.window text).toObeys
  | setDigits digits => exact (edits_setDigits session.window digits).toObeys
  | showError message => exact obeys_showError session.window message
  | showReport report => exact obeys_showReport session.window report
  | clearEntry => exact (edits_clearEntry session.window).toObeys
  | clearResults => exact obeys_clearResults session.window
  | reset => exact obeys_reset session.window
  | draw => exact session.edits_draw.toObeys

/-- No run does either. -/
theorem obeys_performAll (actions : List Action) :
    Obeys session.window (session.performAll actions).value.window := by
  induction actions generalizing session with
  | nil => exact (Edits.refl session.window).toObeys
  | cons action rest ih => exact (session.obeys_perform action).trans (ih _)

end Session

end ExactCalc.Window
