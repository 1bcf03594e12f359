import ExactCalc.Proofs.Infix.Cleaning
import ExactCalc.Proofs.Window.Entry
import ExactCalc.Proofs.Window.Evaluating

/-!
# The keypad as a stack

Clicks on the buttons work on the symbols of the entry as on a stack: a key pushes its symbol,
deleting pops one, and the two buttons that clear the entry empty the stack. The spaces that the
clicks leave behind are tidy and mean nothing, so cleaning gives back exactly the symbols.
-/

namespace ExactCalc.Window

/-- What a button does to the stack of keys, top first. -/
def Button.pressStack (stack : List Key) : Button → List Key
  | key k => k :: stack
  | deleteLast => stack.tail
  | clearEntry | reset => []
  | clearResults | evaluate => stack

/-- The symbols on a stack of keys, from the bottom to the top. -/
def stackSymbols (stack : List Key) : List Char :=
  stack.reverse.map Key.symbol

theorem stackSymbols_cons (k : Key) (stack : List Key) :
    stackSymbols (k :: stack) = stackSymbols stack ++ [k.symbol] := by
  simp [stackSymbols]

theorem stackSymbols_tail (stack : List Key) :
    stackSymbols stack.tail = (stackSymbols stack).dropLast := by
  cases stack with
  | nil => rfl
  | cons k stack => rw [stackSymbols_cons, List.dropLast_concat, List.tail_cons]

@[simp]
theorem isExpressionChar_symbol (k : Key) : Infix.isExpressionChar k.symbol = true := by
  cases k with
  | digit d => decide +revert
  | opening => decide
  | closing => decide
  | operator op => cases op <;> decide

theorem isExpressionChar_of_mem_stackSymbols {stack : List Key} {c : Char}
    (h : c ∈ stackSymbols stack) : Infix.isExpressionChar c = true := by
  obtain ⟨k, -, rfl⟩ := List.mem_map.mp h
  exact isExpressionChar_symbol k

@[simp]
theorem toList_entry_insert (window : Window) (k : Key) :
    (window.insert k).entry.toList = Entry.insert window.entry.toList k :=
  String.toList_ofList

@[simp]
theorem toList_entry_deleteLast (window : Window) :
    window.deleteLast.entry.toList = Entry.deleteLast window.entry.toList :=
  String.toList_ofList

/-- The entry is a tidy layout of the symbols on the stack. -/
structure LaysOut (entry : List Char) (stack : List Key) : Prop where
  symbols : Entry.symbols entry = stackSymbols stack
  tidy : Entry.IsTidy entry

namespace LaysOut

variable {entry : List Char} {stack : List Key}

theorem insert (h : LaysOut entry stack) (k : Key) :
    LaysOut (Entry.insert entry k) (k :: stack) := by
  refine ⟨?_, h.tidy.insert k⟩
  rw [Entry.symbols_insert, h.symbols, stackSymbols_cons]

theorem deleteLast (h : LaysOut entry stack) : LaysOut (Entry.deleteLast entry) stack.tail := by
  refine ⟨?_, h.tidy.deleteLast⟩
  rw [Entry.symbols_deleteLast, h.symbols, stackSymbols_tail]

theorem nil : LaysOut [] [] :=
  ⟨rfl, Entry.isTidy_nil⟩

/-- One click keeps the entry a layout of the stack. -/
theorem press {window : Window} (h : LaysOut window.entry.toList stack) (button : Button) :
    LaysOut (button.press window).value.entry.toList (button.pressStack stack) := by
  cases button with
  | key k =>
    rw [Button.press, Traced.value_silent, toList_entry_insert]
    exact h.insert k
  | deleteLast =>
    rw [Button.press, Traced.value_silent, toList_entry_deleteLast]
    exact h.deleteLast
  | clearEntry => exact nil
  | clearResults => exact h
  | reset => exact nil
  | evaluate =>
    rw [Button.press, entry_evaluate]
    exact h

/-- So do any number of clicks. -/
theorem performAll {session : Session} (h : LaysOut session.window.entry.toList stack)
    (buttons : List Button) :
    LaysOut (session.performAll (buttons.map .click)).value.window.entry.toList
      (buttons.foldl Button.pressStack stack) := by
  induction buttons generalizing session stack with
  | nil => exact h
  | cons button buttons ih =>
    have hunfocus : LaysOut session.unfocus.window.entry.toList stack := by
      rwa [session.entry_unfocus]
    have hclick : LaysOut (session.click button).value.window.entry.toList
        (button.pressStack stack) := by
      rw [Session.window_click]
      exact hunfocus.press button
    exact ih hclick

/-- The blanks of a layout are its spaces. -/
theorem dropBlanks_eq (h : LaysOut entry stack) : Text.dropBlanks entry = stackSymbols stack := by
  rw [← h.symbols, Entry.symbols, Text.dropBlanks]
  apply List.filter_congr
  intro c hc
  by_cases hspace : c = ' '
  · subst hspace
    decide
  · have hmem : c ∈ stackSymbols stack := by
      rw [← h.symbols]
      exact List.mem_filter.mpr ⟨hc, by simpa using hspace⟩
    simp [hspace, Text.isBlank_of_isExpressionChar (isExpressionChar_of_mem_stackSymbols hmem)]

/-- Cleaning gives the symbols back, and finds nothing to refuse but an empty stack. -/
theorem clean_eq (h : LaysOut entry stack) :
    Infix.clean entry =
      if stackSymbols stack = [] then .error .blank else .ok (stackSymbols stack) := by
  split_ifs with hempty
  · rw [Infix.clean_eq_error_iff, ← Text.dropBlanks_eq_nil_iff, h.dropBlanks_eq]
    exact Or.inl ⟨hempty, rfl⟩
  · rw [Infix.clean_eq_ok_iff, h.dropBlanks_eq]
    exact ⟨rfl, hempty, fun c hc ↦ isExpressionChar_of_mem_stackSymbols hc⟩

end LaysOut

/-- Clicks on the buttons, from an empty entry on, push and pop symbols. Without its spaces the
entry is the stack of symbols, cleaning accepts it unless it is empty, and its spaces are tidy. -/
theorem clicks_work_on_symbol_stack (session : Session) (hentry : session.window.entry = "")
    (buttons : List Button) :
    let entry := (session.performAll (buttons.map .click)).value.window.entry.toList
    let symbols := (buttons.foldl Button.pressStack []).reverse.map Key.symbol
    entry.filter (· ≠ ' ') = symbols ∧
      Infix.clean entry = (if symbols = [] then .error .blank else .ok symbols) ∧
      entry.head? ≠ some ' ' ∧ ¬ [' ', ' '] <:+: entry := by
  have hstart : LaysOut session.window.entry.toList [] := by
    rw [hentry]
    exact .nil
  have hlays := hstart.performAll buttons
  exact ⟨hlays.symbols, hlays.clean_eq, hlays.tidy.head?_ne, hlays.tidy.not_isInfix⟩

/-- A deleted operator leaves no space behind, and the operator after it stands as usual. -/
theorem clicks_work_on_symbol_stack_deleted_operator :
    let session := Session.start {}
    let buttons : List Button := [.key (.digit 1), .key (.digit 2), .key (.operator .add),
      .deleteLast, .key .closing, .evaluate, .key (.operator .mul), .key .opening, .clearResults]
    let entry := (session.performAll (buttons.map .click)).value.window.entry.toList
    let symbols := (buttons.foldl Button.pressStack []).reverse.map Key.symbol
    session.window.entry = "" ∧ symbols = ['1', '2', ')', '*', '('] ∧
      entry.filter (· ≠ ' ') = symbols ∧
      Infix.clean entry = (if symbols = [] then .error .blank else .ok symbols) ∧
      entry.head? ≠ some ' ' ∧ ¬ [' ', ' '] <:+: entry :=
  ⟨rfl, rfl, clicks_work_on_symbol_stack (Session.start {}) rfl _⟩

end ExactCalc.Window
