import ExactCalc.Proofs.Window.Frame

/-!
# The enter key

The enter key takes the keyboard from the entry before the window asks whether the entry has it. Only
a wish that is still pending gives it back in time, and then the key does what the button for
evaluating does. No wish survives a drawing, so in a window that has been drawn since its last change
the key evaluates nothing and the entry loses the keyboard.
-/

namespace ExactCalc.Window.Session

/-- The enter key shows what a click on the button for evaluating shows, and leaves the keyboard to
the entry. -/
structure EntersLikeClick (session : Session) : Prop where
  entry : (session.perform .enter).value.window.entry =
    (session.perform (.click .evaluate)).value.window.entry
  results : (session.perform .enter).value.window.results =
    (session.perform (.click .evaluate)).value.window.results
  digits : (session.perform .enter).value.window.digits =
    (session.perform (.click .evaluate)).value.window.digits
  focused : (session.perform .enter).value.focused = true

variable {session : Session}

@[simp]
theorem focused_eq_true_iff : session.focused = true ↔ session.focus = .entry := by
  simp [focused]

theorem unfocus_of_focused (h : session.focused = true) :
    session.unfocus = ⟨session.window, .nowhere⟩ := by
  rw [unfocus, focused_eq_true_iff.mp h]

@[simp]
theorem focused_click (session : Session) (button : Button) :
    (session.click button).value.focused = true := rfl

@[simp]
theorem wantsFocus_draw (session : Session) : session.draw.window.wantsFocus = false := by
  rw [draw]
  split
  · rfl
  · next h => simpa using h

theorem focused_draw (h : session.focused = true) : session.draw.focused = true := by
  rw [draw]
  split
  · rfl
  · exact h

/-- While the entry has the keyboard, a pending wish makes no difference between the key and the
button. -/
theorem perform_enter_of_wish (hfocused : session.focused = true)
    (hwish : session.window.wantsFocus = true) :
    session.perform .enter = session.perform (.click .evaluate) := by
  have hfocus := focused_eq_true_iff.mp hfocused
  have hmove : ∀ window : Window, moveFocus { session with window } .entry =
      moveFocus ⟨window, .nowhere⟩ .entry := by
    intro window
    rw [moveFocus, unfocus, hfocus]
    rfl
  calc
    session.perform .enter
        = session.window.evaluate.map fun window ↦ moveFocus { session with window } .entry :=
      if_pos hwish
    _ = session.window.evaluate.map fun window ↦ moveFocus ⟨window, .nowhere⟩ .entry := by
      simp only [hmove]
    _ = session.perform (.click .evaluate) := by
      rw [perform, click, unfocus_of_focused hfocused]
      rfl

theorem perform_enter_of_no_wish (hfocused : session.focused = true)
    (hwish : session.window.wantsFocus = false) :
    session.perform .enter = .silent ⟨session.window, .nowhere⟩ := by
  rw [perform, enter, if_neg (by simp [hwish]), unfocus_of_focused hfocused]

theorem entersLikeClick_iff (hfocused : session.focused = true) :
    session.EntersLikeClick ↔ session.window.wantsFocus = true := by
  constructor
  · intro h
    by_contra hwish
    have hlost := perform_enter_of_no_wish hfocused (by simpa using hwish)
    have hkept := h.focused
    rw [hlost] at hkept
    simp at hkept
  · intro hwish
    have hsame := perform_enter_of_wish hfocused hwish
    refine ⟨by rw [hsame], by rw [hsame], by rw [hsame], ?_⟩
    rw [hsame]
    exact session.focused_click .evaluate

/-- With the keyboard at the entry, the enter key works like the button exactly as long as the entry
still wishes for the keyboard. Without a wish, as after each drawing, the key takes the keyboard away
and does nothing else. -/
theorem enter_works_iff_wish (session : Session) (hfocused : session.focused = true) :
    (session.EntersLikeClick ↔ session.window.wantsFocus = true) ∧
    (session.window.wantsFocus = true →
      session.perform .enter = session.perform (.click .evaluate)) ∧
    (session.window.wantsFocus = false →
      session.perform .enter = .silent ⟨session.window, .nowhere⟩) ∧
    session.draw.perform .enter = .silent ⟨session.draw.window, .nowhere⟩ :=
  ⟨entersLikeClick_iff hfocused, perform_enter_of_wish hfocused, perform_enter_of_no_wish hfocused,
    perform_enter_of_no_wish (focused_draw hfocused) session.wantsFocus_draw⟩

/-- A sum that is typed into a new window, with the results cleared in between and without. -/
theorem enter_works_iff_wish_sum :
    let typed := ((start {}).performAll [.typeText "1+2"]).value
    let cleared := (typed.perform .clearResults).value
    (typed.focused = true ∧ ¬ typed.EntersLikeClick) ∧
      (cleared.focused = true ∧ cleared.EntersLikeClick) := by
  have htyped : ((start {}).performAll [.typeText "1+2"]).value.focused = true := by decide
  have hcleared : (((start {}).performAll [.typeText "1+2"]).value.perform
      .clearResults).value.focused = true := by decide
  refine ⟨⟨htyped, ?_⟩, hcleared, ?_⟩
  · rw [(enter_works_iff_wish _ htyped).1]
    decide
  · rw [(enter_works_iff_wish _ hcleared).1]
    decide

/-- A sum is typed into a new window: the enter key leaves the results empty. -/
theorem enter_lost_in_drawn_window :
    ¬ ∀ (settings : Settings) (actions : List Action),
      let session : Session := ((⟨initial settings, .nowhere⟩ : Session).performAll actions).value
      session.focused = true → session.EntersLikeClick := by
  intro h
  have hresults := (h {} [.draw, .typeText "1+2"] (by decide)).results
  have hexact := congrArg Results.exact hresults
  revert hexact
  decide +kernel

end ExactCalc.Window.Session
