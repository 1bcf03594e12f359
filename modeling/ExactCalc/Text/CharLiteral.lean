import ExactCalc.Text.DefaultIgnorable
import ExactCalc.Text.ExtendingMark
import ExactCalc.Text.Unprintable

/-!
# Quoted characters

A character quoted in a message is shown as it is when it has a glyph of its own. The quote, the
backslash and four controls have short escapes; every other character that would not be seen, or
would attach to the quote before it, is given by its code point.
-/

namespace ExactCalc.Text

def hexText (n : Nat) : String :=
  String.ofList (Nat.toDigits 16 n)

/-- The escape by code point, in lower case without leading zeros. -/
def codePointEscape (c : Char) : String :=
  "\\u\x7b" ++ hexText c.toNat ++ "\x7d"

/-- The character would not be seen by itself between the quotes. -/
def isHidden (c : Char) : Bool :=
  isUnprintable c || isDefaultIgnorable c || isExtendingMark c

def escapedChar (c : Char) : String :=
  match c with
  | '\x00' => "\\0"
  | '\t' => "\\t"
  | '\r' => "\\r"
  | '\n' => "\\n"
  | '\'' => "\\'"
  | '\\' => "\\\\"
  | c => if isHidden c then codePointEscape c else c.toString

def quotedChar (c : Char) : String :=
  "'" ++ escapedChar c ++ "'"

end ExactCalc.Text
