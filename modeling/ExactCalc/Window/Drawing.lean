import ExactCalc.Window.Session

/-!
# The texts of the window

What a drawing of the window shows, from top to bottom. Texts that are empty leave no trace in it.
-/

namespace ExactCalc

def title : String := "Calculatrice RPN"

namespace Window

def hint : String := "Ex: 2+3*4, (2+3)*4, 8-3-2, 7/2"

def entryTexts (window : Window) : List String :=
  ["Entrée :", if window.entry = "" then hint else window.entry]

def clearingTexts : List String :=
  [Button.clearEntry, .clearResults, .reset].map Button.label

/-- The row of symbols that every expression needs. -/
def symbolButtons : List Button :=
  [.key .opening, .key .closing, .key (.operator .add), .key (.operator .sub),
    .key (.operator .mul), .key (.operator .div), .evaluate]

/-- The number pad, row by row. -/
def padButtons : List Button :=
  [.key (.digit 7), .key (.digit 8), .key (.digit 9), .deleteLast,
    .key (.digit 4), .key (.digit 5), .key (.digit 6), .key (.operator .mul),
    .key (.digit 1), .key (.digit 2), .key (.digit 3), .key (.operator .sub),
    .key (.digit 0), .key (.operator .add)]

def resultTexts (window : Window) : List String :=
  ["EXACT :", window.exact, "Décimal :",
    if window.hasReading then window.reading else "indisponible"]

def workingTexts (working : Working) : List String :=
  ["Démarche", "Nettoyée :", working.cleaned, "RPN :", working.program, "Note :", working.note]

namespace Session

/-- The field shows its text while it has the keyboard, and the number with its unit otherwise. -/
def digitsTexts (session : Session) : List String :=
  ["Décimal :", match session.focus with
    | .digitsField text => text
    | .nowhere | .entry => Text.natText session.window.digits ++ " chiffres"]

def texts (session : Session) : List String :=
  ([title] ++ session.window.entryTexts ++ clearingTexts ++ session.digitsTexts ++
    (symbolButtons ++ padButtons).map Button.label ++ [session.window.error] ++
    session.window.resultTexts ++ workingTexts session.window.working).filter (· ≠ "")

end Session

end Window

end ExactCalc
