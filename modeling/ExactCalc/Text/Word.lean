import ExactCalc.Text.Numeral

/-!
# Machine words in decimal

A word has 64 bits. It is written in ASCII digits, with any number of leading zeros and an optional
plus sign; a minus sign is never part of it. The first fault from the left is the one reported.
-/

namespace ExactCalc.Text

inductive WordError
  | empty
  | invalidDigit
  | overflow
  deriving DecidableEq

def WordError.message : WordError → String
  | empty => "cannot parse integer from empty string"
  | invalidDigit => "invalid digit found in string"
  | overflow => "number too large to fit in target type"

/-- The least number that is not a word. -/
def wordBound : Nat := Nat.pow 2 64

/-- Reads on after digits with the given value. -/
def readWordDigits (value : Nat) : List Char → Except WordError Nat
  | [] => .ok value
  | c :: rest =>
    if c.isDigit then
      let next := 10 * value + (c.toNat - '0'.toNat)
      if next < wordBound then readWordDigits next rest else .error .overflow
    else .error .invalidDigit

def readWord : List Char → Except WordError Nat
  | [] => .error .empty
  | ['+'] => .error .invalidDigit
  | '+' :: digits => readWordDigits 0 digits
  | digits => readWordDigits 0 digits

end ExactCalc.Text
