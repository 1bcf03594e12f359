import ExactCalc.Decimal.Basic

/-!
# Numerals of floating-point numbers

A numeral has an optional sign, digits with an optional point among, before or behind them, and an
optional exponent. Infinity and the undefined number have names, in which case does not matter.
-/

namespace ExactCalc

inductive Numeral
  | finite (d : Decimal)
  | infinite (negative : Bool)
  | undefined (negative : Bool)
  deriving DecidableEq

namespace Numeral

/-- The digits of a whole exponent, which may be signed. -/
def readExponent? : List Char → Option Int
  | '-' :: digits => (Text.readNumeral? digits).map fun n ↦ -n
  | '+' :: digits => (Text.readNumeral? digits).map fun n ↦ n
  | digits => (Text.readNumeral? digits).map fun n ↦ n

/-- What may follow the last digit of the fraction. -/
def readTail? : List Char → Option Int
  | [] => some 0
  | 'e' :: rest => readExponent? rest
  | 'E' :: rest => readExponent? rest
  | _ => none

/-- A numeral without sign; a point alone has no digits. -/
def readMagnitude? (text : List Char) : Option Decimal :=
  let whole := text.takeWhile Char.isDigit
  let afterWhole := text.dropWhile Char.isDigit
  let (fraction, tail) :=
    match afterWhole with
    | '.' :: rest => (rest.takeWhile Char.isDigit, rest.dropWhile Char.isDigit)
    | rest => ([], rest)
  if whole.isEmpty && fraction.isEmpty then none
  else (readTail? tail).map fun exponent ↦
    ⟨Text.numeralValue (whole ++ fraction), exponent - fraction.length⟩

def readName? (negative : Bool) (text : List Char) : Option Numeral :=
  match String.ofList (text.map Char.toLower) with
  | "inf" => some (infinite negative)
  | "infinity" => some (infinite negative)
  | "nan" => some (undefined negative)
  | _ => none

def readUnsigned? (negative : Bool) (text : List Char) : Option Numeral :=
  match readMagnitude? text with
  | some d => some (finite (if negative then d.negate else d))
  | none => readName? negative text

def read? : List Char → Option Numeral
  | '-' :: rest => readUnsigned? true rest
  | '+' :: rest => readUnsigned? false rest
  | text => readUnsigned? false text

end Numeral

end ExactCalc
