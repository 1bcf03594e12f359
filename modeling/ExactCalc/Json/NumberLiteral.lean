import ExactCalc.Double.Rounding
import ExactCalc.Text.Numeral

/-!
# Number literals

A JSON number has an optional minus sign, digits without superfluous leading zeros, and optionally a
fraction and an exponent. It is readable unless its magnitude overflows the doubles when computed
from as many leading digits as fit in a word and a power of ten, each rounded by itself.
-/

namespace ExactCalc.Json

structure NumberLiteral where
  negative : Bool
  whole : List Char
  fraction : List Char
  exponent : Int
  deriving DecidableEq

namespace NumberLiteral

/-- A run of digits, not empty, and what follows it. -/
def readDigits? (text : List Char) : Option (List Char × List Char) :=
  let digits := text.takeWhile Char.isDigit
  if digits.isEmpty then none else some (digits, text.dropWhile Char.isDigit)

/-- A zero is the only digit of a whole part that starts with it. -/
def readWhole? (text : List Char) : Option (List Char × List Char) := do
  let (digits, after) ← readDigits? text
  if digits.length ≠ 1 ∧ digits.head? = some '0' then none else return (digits, after)

def readFraction? : List Char → Option (List Char × List Char)
  | '.' :: rest => readDigits? rest
  | text => some ([], text)

def readExponentDigits? (sign : Int) (text : List Char) : Option (Int × List Char) :=
  (readDigits? text).map fun (digits, after) ↦ (sign * Text.numeralValue digits, after)

def readSignedExponent? : List Char → Option (Int × List Char)
  | '-' :: rest => readExponentDigits? (-1) rest
  | '+' :: rest => readExponentDigits? 1 rest
  | text => readExponentDigits? 1 text

def readExponent? : List Char → Option (Int × List Char)
  | 'e' :: rest => readSignedExponent? rest
  | 'E' :: rest => readSignedExponent? rest
  | text => some (0, text)

def readUnsigned? (negative : Bool) (text : List Char) :
    Option (NumberLiteral × List Char) := do
  let (whole, afterWhole) ← readWhole? text
  let (fraction, afterFraction) ← readFraction? afterWhole
  let (exponent, after) ← readExponent? afterFraction
  return (⟨negative, whole, fraction, exponent⟩, after)

def read? : List Char → Option (NumberLiteral × List Char)
  | '-' :: rest => readUnsigned? true rest
  | text => readUnsigned? false text

/-- A significand is kept below this bound. -/
def significandBound : Nat := Nat.pow 2 64

/-- Appends digits to a significand while they fit, and returns those left over. -/
def appendDigits (significand : Nat) : List Char → Nat × List Char
  | [] => (significand, [])
  | c :: rest =>
    let next := 10 * significand + (c.toNat - '0'.toNat)
    if next < significandBound then appendDigits next rest else (significand, c :: rest)

/-- The digits that count, and the power of ten they are multiplied by. Whole digits left over
count as zeros; fraction digits left over are dropped. -/
def significand (n : NumberLiteral) : Nat × Int :=
  let (fromWhole, wholeLeft) := appendDigits 0 n.whole
  let (all, fractionLeft) := appendDigits fromWhole n.fraction
  (all, wholeLeft.length - (n.fraction.length - fractionLeft.length : Nat) + n.exponent)

/-- The greatest power of ten that a double can be near to. -/
def maxPower : Int := 308

def isReadable (n : NumberLiteral) : Bool :=
  let (digits, power) := n.significand
  digits = 0 || power < 0 ||
    (power ≤ maxPower &&
      (do Double.nearest? ((← Double.nearest? digits) * (← Double.nearest? (10 ^ power)))).isSome)

theorem length_lt_of_readDigits? {text digits after : List Char}
    (h : readDigits? text = some (digits, after)) : after.length < text.length := by
  simp only [readDigits?] at h
  split at h
  · simp at h
  · next ne =>
    simp only [Option.some.injEq, Prod.mk.injEq] at h
    obtain ⟨rfl, rfl⟩ := h
    have whole : text.takeWhile Char.isDigit ++ text.dropWhile Char.isDigit = text :=
      List.takeWhile_append_dropWhile
    have lengths := congrArg List.length whole
    have pos : 0 < (text.takeWhile Char.isDigit).length := by
      simpa [List.length_pos_iff] using ne
    simp only [List.length_append] at lengths
    omega

theorem length_lt_of_readWhole? {text digits after : List Char}
    (h : readWhole? text = some (digits, after)) : after.length < text.length := by
  simp only [readWhole?, Option.bind_eq_bind, Option.bind_eq_some_iff] at h
  obtain ⟨_, hread, h⟩ := h
  split at h
  · simp at h
  · simp only [Option.pure_def, Option.some.injEq, Prod.mk.injEq] at h
    obtain ⟨_, rfl⟩ := h
    exact length_lt_of_readDigits? hread

theorem length_le_of_readFraction? {text digits after : List Char}
    (h : readFraction? text = some (digits, after)) : after.length ≤ text.length := by
  unfold readFraction? at h
  split at h
  · have := length_lt_of_readDigits? h
    simp
    omega
  · simp_all

theorem length_lt_of_readExponentDigits? {sign value : Int} {text after : List Char}
    (h : readExponentDigits? sign text = some (value, after)) : after.length < text.length := by
  simp only [readExponentDigits?, Option.map_eq_some_iff, Prod.mk.injEq] at h
  obtain ⟨_, hread, _, rfl⟩ := h
  exact length_lt_of_readDigits? hread

theorem length_lt_of_readSignedExponent? {value : Int} {text after : List Char}
    (h : readSignedExponent? text = some (value, after)) : after.length < text.length := by
  unfold readSignedExponent? at h
  split at h
  case h_3 => exact length_lt_of_readExponentDigits? h
  all_goals exact Nat.lt_succ_of_lt (length_lt_of_readExponentDigits? h)

theorem length_le_of_readExponent? {value : Int} {text after : List Char}
    (h : readExponent? text = some (value, after)) : after.length ≤ text.length := by
  unfold readExponent? at h
  split at h
  case h_3 => simp_all
  all_goals exact Nat.le_succ_of_le (Nat.le_of_lt (length_lt_of_readSignedExponent? h))

theorem length_lt_of_readUnsigned? {negative : Bool} {text after : List Char} {n : NumberLiteral}
    (h : readUnsigned? negative text = some (n, after)) : after.length < text.length := by
  simp only [readUnsigned?, Option.bind_eq_bind, Option.bind_eq_some_iff, Option.pure_def,
    Option.some.injEq, Prod.mk.injEq] at h
  obtain ⟨_, whole, _, fraction, _, exponent, _, rfl⟩ := h
  exact Nat.lt_of_le_of_lt (length_le_of_readExponent? exponent)
    (Nat.lt_of_le_of_lt (length_le_of_readFraction? fraction) (length_lt_of_readWhole? whole))

theorem length_lt_of_read? {text after : List Char} {n : NumberLiteral}
    (h : read? text = some (n, after)) : after.length < text.length := by
  unfold read? at h
  split at h
  · exact Nat.lt_succ_of_lt (length_lt_of_readUnsigned? h)
  · exact length_lt_of_readUnsigned? h

end NumberLiteral

end ExactCalc.Json
