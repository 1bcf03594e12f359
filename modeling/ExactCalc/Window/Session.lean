import ExactCalc.Window.State

/-!
# Using the window

A session is a window together with the place of the keyboard. Drawing the window grants a pending
wish of the entry for the keyboard. Clicks and keys draw it as they happen; changes made from
outside do not, so a wish may stay pending over several of them.

Typing goes to the end of the text that has the keyboard, unless the text typed is empty or a lone
line end, which stands for the enter key. The field for the number of digits stores its number after
each change of its text, and once more when it loses the keyboard, over any change made from outside
in between. The escape key drops the text instead.
-/

namespace ExactCalc.Window

inductive Button
  | key (key : Key)
  | deleteLast
  | clearEntry
  | clearResults
  | reset
  | evaluate
  deriving DecidableEq

namespace Button

def label : Button → String
  | key k => k.symbol.toString
  | deleteLast => "DEL"
  | clearEntry => "C"
  | clearResults => "CLR"
  | reset => "AC"
  | evaluate => "="

def all : List Button :=
  Key.all.map key ++ [deleteLast, clearEntry, clearResults, reset, evaluate]

def ofLabel? (label : String) : Option Button :=
  all.find? (·.label = label)

def press (window : Window) : Button → Traced Window
  | key k => .silent (window.insert k)
  | deleteLast => .silent window.deleteLast
  | clearEntry => .silent window.clearEntry
  | clearResults => .silent window.clearResults
  | reset => .silent window.reset
  | evaluate => window.evaluate

end Button

inductive Action
  | click (button : Button)
  | clickEmptyPlace
  | typeText (text : String)
  | backspace
  | enter
  | escape
  | editDigits (text : String)
  | setEntry (text : String)
  | setDigits (digits : Nat)
  | showError (message : String)
  | showReport (report : Report)
  | clearEntry
  | clearResults
  | reset
  | draw
  deriving DecidableEq

/-- The place that has the keyboard. -/
inductive Focus
  | nowhere
  | entry
  /-- The field for the number of digits, with the text in it. -/
  | digitsField (text : String)
  deriving DecidableEq

structure Session where
  window : Window
  focus : Focus
  deriving DecidableEq

namespace Session

/-- The entry has the keyboard. -/
def focused (session : Session) : Bool :=
  session.focus = .entry

/-- Takes the keyboard away from where it is. -/
def unfocus (session : Session) : Session :=
  match session.focus with
  | .digitsField text => ⟨session.window.storeDigits text, .nowhere⟩
  | .nowhere | .entry => ⟨session.window, .nowhere⟩

/-- Moves the keyboard and leaves no wish for it pending. -/
def moveFocus (session : Session) (focus : Focus) : Session :=
  ⟨{ session.unfocus.window with wantsFocus := false }, focus⟩

def draw (session : Session) : Session :=
  if session.window.wantsFocus then session.moveFocus .entry else session

/-- A new window has been drawn once, which gives its entry the focus. -/
def start (settings : Settings) : Session :=
  draw ⟨Window.initial settings, .nowhere⟩

/-- Changes the window without drawing it. -/
def update (session : Session) (f : Window → Window) : Session :=
  { session with window := f session.window }

/-- Whether typing the text changes the text that has the keyboard. -/
def isTyped (text : String) : Bool :=
  text ≠ "" && text ≠ "\n" && text ≠ "\r"

/-- The digits field gets a new text, and the entry wants the keyboard back. -/
def retypeDigits (session : Session) (text : String) : Session :=
  ⟨{ session.window.storeDigits text with wantsFocus := true }, .digitsField text⟩

/-- The text that has the keyboard after drawing takes the input. -/
def input (session : Session) (edit : List Char → List Char) : Session :=
  let drawn := session.draw
  match drawn.focus with
  | .nowhere => drawn
  | .entry => drawn.update (·.editEntry edit)
  | .digitsField text => drawn.retypeDigits (String.ofList (edit text.toList))

def typeText (session : Session) (text : String) : Session :=
  if isTyped text then session.input (· ++ text.toList) else session.draw

/-- The mouse takes the keyboard away before the button acts, and the entry gets it afterwards. -/
def click (session : Session) (button : Button) : Traced Session :=
  (button.press session.unfocus.window).map fun window ↦ moveFocus ⟨window, .nowhere⟩ .entry

/-- The key takes the focus away from the entry, and only a pending wish for it brings it back in
time to evaluate. The evaluation comes before a digits field stores its number again. -/
def enter (session : Session) : Traced Session :=
  if session.window.wantsFocus then
    session.window.evaluate.map fun window ↦ moveFocus { session with window } .entry
  else .silent session.unfocus

/-- The key takes the focus away from a digits field without storing its number again. -/
def escape (session : Session) : Session :=
  moveFocus ⟨session.window.clearEntry, .nowhere⟩ .entry

/-- A click moves the keyboard to the digits field, which then shows the bare number. -/
def openDigits (session : Session) : Session :=
  let left := session.moveFocus .nowhere
  { left with focus := .digitsField (Text.natText left.window.digits) }

/-- The text is typed over that of the digits field. -/
def editDigits (session : Session) (text : String) : Session :=
  if isTyped text then session.openDigits.retypeDigits text else session.openDigits

def perform (session : Session) : Action → Traced Session
  | .click button => session.click button
  | .clickEmptyPlace => .silent (session.moveFocus .nowhere)
  | .typeText text => .silent (session.typeText text)
  | .backspace => .silent (session.input List.dropLast)
  | .enter => session.enter
  | .escape => .silent session.escape
  | .editDigits text => .silent (session.editDigits text)
  | .setEntry text => .silent (session.update (·.setEntry text))
  | .setDigits digits => .silent (session.update (·.setDigits digits))
  | .showError message => .silent (session.update (·.showError message))
  | .showReport report => .silent (session.update (·.showReport report))
  | .clearEntry => .silent (session.update clearEntry)
  | .clearResults => .silent (session.update clearResults)
  | .reset => .silent (session.update reset)
  | .draw => .silent session.draw

/-- Performs the actions in order. -/
def performAll (session : Session) : List Action → Traced Session
  | [] => .silent session
  | action :: rest => (session.perform action).bind (·.performAll rest)

end Session

end ExactCalc.Window
