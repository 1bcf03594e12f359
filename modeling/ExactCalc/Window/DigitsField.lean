import ExactCalc.Decimal.Numeral
import ExactCalc.Double.OfDecimal
import ExactCalc.Settings

/-!
# The field for the number of digits

A number typed into the field is rounded to a double, kept between zero and the greatest number of
digits, and cut off to a whole one. Blanks in it are ignored, and the minus sign of typesetting is
taken for a hyphen; a text that is no number is ignored.
-/

namespace ExactCalc.Window.DigitsField

def normalize (text : List Char) : List Char :=
  (Text.dropBlanks text).map fun c ↦ if c = '\u2212' then '-' else c

/-- Values outside the range go to its nearer end. -/
def clamp (y : Rat) : Nat :=
  min y.floor.toNat Settings.maxDigits

/-- The undefined number lies beyond infinity on the side of its sign. -/
def ofNumeral : Numeral → Nat
  | .infinite negative => if negative then 0 else Settings.maxDigits
  | .undefined negative => if negative then 0 else Settings.maxDigits
  | .finite d =>
    match Double.ofDecimal? d with
    | some y => clamp y
    | none => if d.coefficient < 0 then 0 else Settings.maxDigits

def read? (text : String) : Option Nat :=
  (Numeral.read? (normalize text.toList)).map ofNumeral

end ExactCalc.Window.DigitsField
