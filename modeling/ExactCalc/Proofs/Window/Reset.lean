import ExactCalc.Proofs.Window.Frame

/-!
# Starting over

A reset forgets everything about a window but its settings, and these no action changes. So after any
run a reset brings back the new window. The button for it brings back the new session as well: the
window as it is after the first drawing, with the keyboard at its entry.
-/

namespace ExactCalc.Window

/-- Nothing but the settings of a window is left in it after a reset. -/
theorem reset_eq_initial (window : Window) : window.reset = initial window.settings := rfl

namespace Session

theorem click_reset_eq_start (session : Session) :
    (session.click .reset).value = start session.window.settings := by
  calc
    (session.click .reset).value = moveFocus ⟨session.unfocus.window.reset, .nowhere⟩ .entry := rfl
    _ = moveFocus ⟨initial session.window.settings, .nowhere⟩ .entry := by
      rw [reset_eq_initial, session.settings_unfocus]
    _ = start session.window.settings := rfl

end Session

/-- Whatever has happened to a new window, a reset makes it a new window again, and the button for it
starts the session anew. -/
theorem reset_restores_initial (settings : Settings) (actions : List Action) :
    let session : Session := ⟨initial settings, .nowhere⟩
    let after : Session := (session.performAll actions).value
    after.window.reset = initial settings ∧ (after.click .reset).value = Session.start settings := by
  intro session after
  have hsettings : after.window.settings = settings := (session.obeys_performAll actions).settings
  constructor
  · rw [reset_eq_initial, hsettings]
  · rw [after.click_reset_eq_start, hsettings]

end ExactCalc.Window
