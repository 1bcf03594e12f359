import ExactCalc.Text.Numeral

/-!
# Readings of a rational

A rational is read exactly, as a whole number or a reduced fraction, or in decimal, cut off after a
number of digits behind the point. The decimal reading scales the rational by a power of ten, drops
what is left behind the point, and puts the point back.
-/

namespace ExactCalc.Reading

def exact (r : Rat) : String :=
  if r.den = 1 then Text.intText r.num
  else Text.intText r.num ++ "/" ++ Text.natText r.den

/-- Exponents have 32 bits. -/
def exponentBound : Nat := Nat.pow 2 32

/-- The power of ten for a number of digits, of which only the low bits count. -/
def scale (digits : Nat) : Nat :=
  Nat.pow 10 (digits % exponentBound)

/-- The scaled rational without its fraction. -/
def scaled (r : Rat) (digits : Nat) : Int :=
  (r.num * scale digits).tdiv r.den

/-- The text of `n / 10 ^ digits`. -/
def ofScaled (n : Int) (digits : Nat) : String :=
  let whole := Text.natText (n.natAbs / scale digits)
  let fraction := Text.padZeros digits (Text.natText (n.natAbs % scale digits))
  let sign := if n < 0 then "-" else ""
  if digits = 0 then sign ++ whole else sign ++ whole ++ "." ++ fraction

def decimal (r : Rat) (digits : Nat) : String :=
  ofScaled (scaled r digits) digits

end ExactCalc.Reading
