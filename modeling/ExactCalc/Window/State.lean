import ExactCalc.Service
import ExactCalc.Window.DigitsField
import ExactCalc.Window.Entry

/-!
# The state of the window

The window holds an entry, the results of the last evaluation and the number of digits to read with.
Clearing comes in three sizes: the entry, the results, or both together with the number of digits.
An error leaves the exact result of an earlier evaluation in place and takes away everything else.
-/

namespace ExactCalc

structure Window where
  entry : String
  exact : String
  reading : String
  error : String
  hasReading : Bool
  working : Working
  digits : Nat
  settings : Settings
  /-- The entry is to have the keyboard from the next drawing on. -/
  wantsFocus : Bool
  deriving DecidableEq

namespace Window

def initial (settings : Settings) : Window where
  entry := ""
  exact := ""
  reading := ""
  error := ""
  hasReading := false
  working := {}
  digits := min settings.digits Settings.maxDigits
  settings
  wantsFocus := true

def clearEntry (window : Window) : Window :=
  { window with entry := "", wantsFocus := true }

def clearResults (window : Window) : Window :=
  { window with
    exact := ""
    reading := ""
    error := ""
    hasReading := false
    working := {}
    wantsFocus := true }

/-- The number of digits goes back to that of the settings. -/
def reset (window : Window) : Window :=
  { window.clearResults with
    entry := ""
    digits := min window.settings.digits Settings.maxDigits }

def showError (window : Window) (message : String) : Window :=
  { window with
    error := message
    reading := ""
    hasReading := false
    working := {}
    wantsFocus := true }

def showReport (window : Window) (report : Report) : Window :=
  { window with
    error := ""
    exact := report.exact
    reading := report.reading
    hasReading := true
    working := report.working
    wantsFocus := true }

def setDigits (window : Window) (digits : Nat) : Window :=
  { window with digits := min digits Settings.maxDigits, wantsFocus := true }

/-- The text of the digits field counts if it is a number. -/
def storeDigits (window : Window) (text : String) : Window :=
  { window with digits := (DigitsField.read? text).getD window.digits }

def setEntry (window : Window) (entry : String) : Window :=
  { window with entry }

def editEntry (window : Window) (edit : List Char → List Char) : Window :=
  window.setEntry (String.ofList (edit window.entry.toList))

def insert (window : Window) (key : Key) : Window :=
  { window.editEntry (Entry.insert · key) with wantsFocus := true }

def deleteLast (window : Window) : Window :=
  { window.editEntry Entry.deleteLast with wantsFocus := true }

/-- The entry and the number of digits are those of this moment; later changes of them leave the
results as they are. -/
def evaluate (window : Window) : Traced Window :=
  (Service.evaluateReport window.settings window.entry window.digits).map fun
    | .ok report => window.showReport report
    | .error refusal => window.showError refusal.message

end Window

end ExactCalc
