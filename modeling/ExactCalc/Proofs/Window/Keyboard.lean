import ExactCalc.Proofs.Window.EnterKey
import ExactCalc.Proofs.Window.Independence

/-!
# The keyboard of the entry

Whatever is typed goes into the entry if a drawing finds or puts the keyboard there. So the entry has
to have the keyboard, or to wish for it, and almost every action leaves it like this: the buttons and
the escape key hand the keyboard over, changes from outside and typing into the digits field leave a
wish behind, and typing into the entry keeps the keyboard where it is.

Three things lead elsewhere. A click on an empty place and the enter key take the keyboard away, and
a visit to the digits field in which nothing is typed leaves the keyboard there. A line end by itself
is left to the enter key, so it is typed into no text at all.
-/

namespace ExactCalc.Window

/-- The action does not take the keyboard away from the entry for longer than up to the next
drawing. -/
def Action.keepsKeyboard : Action → Bool
  | .clickEmptyPlace | .enter => false
  | .editDigits text => Session.isTyped text
  | _ => true

namespace Session

variable {session : Session}

/-- The entry has the keyboard or wishes for it. -/
def HoldsKeyboard (session : Session) : Prop :=
  session.focused = true ∨ session.window.wantsFocus = true

/-- A drawing grants the wish, and takes the keyboard from no one without it. -/
theorem holdsKeyboard_iff : session.HoldsKeyboard ↔ session.draw.focus = .entry := by
  rw [HoldsKeyboard, draw, focused_eq_true_iff]
  cases hwish : session.window.wantsFocus with
  | true => simp [moveFocus]
  | false => simp

theorem entry_draw (session : Session) : session.draw.window.entry = session.window.entry := by
  rw [draw]
  split_ifs
  · exact session.entry_moveFocus .entry
  · rfl

namespace HoldsKeyboard

theorem draw (h : session.HoldsKeyboard) : session.draw.HoldsKeyboard :=
  .inl (focused_eq_true_iff.mpr (holdsKeyboard_iff.mp h))

/-- The input goes into the entry. -/
theorem input_eq (h : session.HoldsKeyboard) (edit : List Char → List Char) :
    session.input edit = session.draw.update (·.editEntry edit) := by
  simp only [Session.input, holdsKeyboard_iff.mp h]

theorem input (h : session.HoldsKeyboard) (edit : List Char → List Char) :
    (session.input edit).HoldsKeyboard := by
  rw [h.input_eq]
  exact h.draw

theorem toList_entry_input (h : session.HoldsKeyboard) (edit : List Char → List Char) :
    (session.input edit).window.entry.toList = edit session.window.entry.toList := by
  rw [h.input_eq, ← session.entry_draw]
  exact String.toList_ofList

theorem typeText (h : session.HoldsKeyboard) (text : String) :
    (session.typeText text).HoldsKeyboard := by
  rw [Session.typeText]
  split_ifs
  · exact h.input _
  · exact h.draw

/-- A text is typed whole unless it is a line end. -/
theorem entry_typeText (h : session.HoldsKeyboard) {text : String} (hnewline : text ≠ "\n")
    (hreturn : text ≠ "\r") :
    (session.typeText text).window.entry = session.window.entry ++ text := by
  rw [Session.typeText]
  split_ifs with htyped
  · rw [← String.toList_inj, h.toList_entry_input, String.toList_append]
  · have hempty : text = "" := by simpa [isTyped, hnewline, hreturn] using htyped
    rw [hempty, String.append_empty]
    exact session.entry_draw

/-- One action that keeps the keyboard. -/
theorem perform (h : session.HoldsKeyboard) {action : Action}
    (hkeeps : action.keepsKeyboard = true) : (session.perform action).value.HoldsKeyboard := by
  cases action with
  | click button => exact .inl (session.focused_click button)
  | clickEmptyPlace => exact absurd hkeeps Bool.false_ne_true
  | typeText text => exact h.typeText text
  | backspace => exact h.input List.dropLast
  | enter => exact absurd hkeeps Bool.false_ne_true
  | escape => exact .inl rfl
  | editDigits text =>
    have htyped : isTyped text = true := hkeeps
    have hretyped : session.editDigits text = session.openDigits.retypeDigits text := if_pos htyped
    rw [Session.perform, hretyped]
    exact .inr rfl
  | setEntry text => exact h
  | setDigits digits => exact .inr rfl
  | showError message => exact .inr rfl
  | showReport report => exact .inr rfl
  | clearEntry => exact .inr rfl
  | clearResults => exact .inr rfl
  | reset => exact .inr rfl
  | draw => exact h.draw

/-- Any number of them. -/
theorem performAll (h : session.HoldsKeyboard) {actions : List Action}
    (hkeeps : ∀ action ∈ actions, action.keepsKeyboard = true) :
    (session.performAll actions).value.HoldsKeyboard := by
  induction actions generalizing session with
  | nil => exact h
  | cons action rest ih =>
    rw [List.forall_mem_cons] at hkeeps
    exact ih (h.perform hkeeps.1) hkeeps.2

end HoldsKeyboard

end Session

/-- As long as nobody clicks on an empty place, presses the enter key or leaves the digits field
without having typed, the entry has the keyboard or wishes for it. So the next text is typed behind
the entry, unless it is a line end, and a backspace takes the last character of the entry away. -/
theorem keystrokes_reach_entry (settings : Settings) (actions : List Action)
    (hkeeps : ∀ action ∈ actions, action.keepsKeyboard = true) :
    let session : Session := ((⟨initial settings, .nowhere⟩ : Session).performAll actions).value
    (session.focused = true ∨ session.window.wantsFocus = true) ∧
    (∀ text, text ≠ "\n" → text ≠ "\r" →
      (session.perform (.typeText text)).value.window.entry = session.window.entry ++ text) ∧
    (session.perform .backspace).value.window.entry.toList =
      session.window.entry.toList.dropLast := by
  intro session
  have hinitial : (⟨initial settings, .nowhere⟩ : Session).HoldsKeyboard := .inr rfl
  have hholds : session.HoldsKeyboard := hinitial.performAll hkeeps
  exact ⟨hholds, fun _ ↦ hholds.entry_typeText, hholds.toList_entry_input List.dropLast⟩

/-- Typing goes on behind a refused evaluation and an edit of the digits field, which has the keyboard
until the next drawing. -/
theorem keystrokes_reach_entry_behind_digits :
    let actions : List Action := [.typeText "1/0", .click .evaluate, .showError "é", .editDigits "x"]
    let session : Session := ((⟨initial {}, .nowhere⟩ : Session).performAll actions).value
    (∀ action ∈ actions, action.keepsKeyboard = true) ∧ session.focus = .digitsField "x" ∧
    (session.focused = true ∨ session.window.wantsFocus = true) ∧
    (session.perform (.typeText "+é")).value.window.entry = session.window.entry ++ "+é" ∧
    (session.perform .backspace).value.window.entry.toList =
      session.window.entry.toList.dropLast := by
  intro actions session
  have hkeeps : ∀ action ∈ actions, action.keepsKeyboard = true := by decide
  obtain ⟨hholds, htyped, hbackspace⟩ := keystrokes_reach_entry {} actions hkeeps
  exact ⟨hkeeps, rfl, hholds, htyped "+é" (by decide) (by decide), hbackspace⟩

/-- Clicks on an empty place and the enter key are not all that keystrokes can get lost by. A line
end is not typed behind the entry of a new window, and when the digits field has been visited without
typing, the entry neither has the keyboard nor wishes for it. -/
theorem keystrokes_missed :
    (¬ ∀ (settings : Settings) (actions : List Action),
      (∀ action ∈ actions, action ≠ .clickEmptyPlace ∧ action ≠ .enter) →
      let session : Session := ((⟨initial settings, .nowhere⟩ : Session).performAll actions).value
      ∀ text, (session.perform (.typeText text)).value.window.entry = session.window.entry ++ text) ∧
    ¬ ∀ (settings : Settings) (actions : List Action),
      (∀ action ∈ actions, action ≠ .clickEmptyPlace ∧ action ≠ .enter) →
      let session : Session := ((⟨initial settings, .nowhere⟩ : Session).performAll actions).value
      session.focused = true ∨ session.window.wantsFocus = true := by
  constructor
  · intro h
    have hline := h {} [.typeText "1+2"] (by decide) "\n"
    revert hline
    decide +kernel
  · intro h
    have hvisit := h {} [.draw, .editDigits ""] (by decide)
    revert hvisit
    decide +kernel

end ExactCalc.Window
