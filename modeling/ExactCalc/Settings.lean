import ExactCalc.Text.Blank
import ExactCalc.Trace

/-!
# Settings

Two numbers can be set from outside by named texts: the greatest length of an expression and the
number of digits of a decimal reading. A text that cannot be used is reported and has no effect.
-/

namespace ExactCalc

structure Settings where
  /-- The greatest length of an expression, in bytes of UTF-8. -/
  lengthLimit : Nat := 4096
  /-- The digits of a decimal reading behind the point. -/
  digits : Nat := 20
  deriving DecidableEq

namespace Settings

/-- A reading is never asked for more digits than these. -/
def maxDigits : Nat := 200

def lengthKey : String := "CALC_LONGUEUR_MAX"

def digitsKey : String := "CALC_DIGITS"

/-- Blanks around the number are ignored. -/
def readWord? (source : String → Option String) (key : String) : Traced (Option Nat) :=
  match source key with
  | none => .silent none
  | some text =>
    match Text.readWord (Text.trimBlanks text.toList) with
    | .ok n => .silent (some n)
    | .error cause => .logged (.settingUnreadable key text cause) none

/-- A limit of zero would refuse every expression, so it is not used. -/
def withLengthLimit (settings : Settings) : Option Nat → Traced Settings
  | none => .silent settings
  | some 0 => .logged (.zeroLimit lengthKey) settings
  | some n => .silent { settings with lengthLimit := n }

def withDigits (settings : Settings) : Option Nat → Settings
  | none => settings
  | some n => { settings with digits := min n maxDigits }

def ofSource (source : String → Option String) : Traced Settings :=
  ((readWord? source lengthKey).bind (withLengthLimit {})).bind fun settings ↦
    (readWord? source digitsKey).map settings.withDigits

end Settings

end ExactCalc
