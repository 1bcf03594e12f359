import ExactCalc.Decimal.Basic

/-!
# The text of a decimal

A decimal is written positionally when its leading exponent lies in a given interval, and otherwise
with one digit before the point and an exponent after `e`. Zeros at the end of the coefficient are
not significant.
-/

namespace ExactCalc.Decimal

structure Layout where
  /-- The least leading exponent that is written positionally. -/
  positionalFirst : Int
  /-- The least leading exponent above the positional ones. -/
  positionalEnd : Int

/-- The digits up to the last one that is not zero. -/
def significantDigits (d : Decimal) : List Char :=
  (d.digits.reverse.dropWhile (· = '0')).reverse

/-- A point always stands between digits, so a whole number ends in `.0`. -/
def positional (digits : List Char) (leading : Int) : List Char :=
  if leading < 0 then
    '0' :: '.' :: List.replicate (-leading - 1).toNat '0' ++ digits
  else
    let whole := leading.toNat + 1
    let before := digits.take whole
    let after := digits.drop whole
    let fraction := if after.isEmpty then ['0'] else after
    before ++ List.replicate (whole - before.length) '0' ++ '.' :: fraction

/-- The exponent always has a sign, and a single digit has no point. -/
def scientific (digits : List Char) (leading : Int) : List Char :=
  let fraction := digits.drop 1
  digits.take 1 ++ (if fraction.isEmpty then [] else '.' :: fraction) ++
    'e' :: (if leading < 0 then '-' else '+') :: (Text.natText leading.natAbs).toList

def chars (layout : Layout) (d : Decimal) : List Char :=
  let leading := d.leadingExponent
  let magnitude :=
    if layout.positionalFirst ≤ leading ∧ leading < layout.positionalEnd then
      positional d.significantDigits leading
    else scientific d.significantDigits leading
  if d.coefficient < 0 then '-' :: magnitude else magnitude

def text (layout : Layout) (d : Decimal) : String :=
  String.ofList (d.chars layout)

end ExactCalc.Decimal
