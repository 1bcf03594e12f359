/-!
# Decimal numerals

Numbers are written in ASCII digits without leading zeros, and read from any run of ASCII digits.
Reading what was written gives the number back.
-/

namespace ExactCalc.Text

/-- The number a run of ASCII digits stands for. -/
def numeralValue (digits : List Char) : Nat :=
  Nat.ofDigitChars 10 digits 0

/-- The number of a text that is a run of ASCII digits, not empty. -/
def readNumeral? (text : List Char) : Option Nat :=
  if text ≠ [] ∧ text.all Char.isDigit then some (numeralValue text) else none

def natText (n : Nat) : String :=
  n.repr

/-- A minus sign stands before the digits of a negative number, and nothing before the others. -/
def intText (n : Int) : String :=
  if n < 0 then "-" ++ natText n.natAbs else natText n.natAbs

/-- Zeros on the left bring the digits to the given width. -/
def padZeros (width : Nat) (digits : String) : String :=
  String.ofList (List.replicate (width - digits.length) '0') ++ digits

@[simp] theorem toList_natText (n : Nat) : (natText n).toList = Nat.toDigits 10 n :=
  Nat.toList_repr

@[simp] theorem numeralValue_natText (n : Nat) : numeralValue (natText n).toList = n := by
  simp [numeralValue]

theorem isDigit_of_mem_natText {n : Nat} {c : Char} (h : c ∈ (natText n).toList) :
    c.isDigit = true :=
  Nat.isDigit_of_mem_toDigits (b := 10) (by decide) (by decide) (by simpa using h)

@[simp] theorem numeralValue_nil : numeralValue [] = 0 := rfl

/-- A digit behind the others counts once, and they count ten times what they do without it. -/
theorem numeralValue_concat (digits : List Char) (c : Char) :
    numeralValue (digits ++ [c]) = 10 * numeralValue digits + (c.toNat - '0'.toNat) := by
  simp [numeralValue, Nat.ofDigitChars_append, Nat.ofDigitChars_cons]

theorem readNumeral?_eq_some_iff {text : List Char} {n : Nat} :
    readNumeral? text = some n ↔
      text ≠ [] ∧ (∀ c ∈ text, c.isDigit = true) ∧ numeralValue text = n := by
  simp [readNumeral?, and_assoc]

theorem readNumeral?_of_isDigit {digits : List Char} (hne : digits ≠ [])
    (hdigits : ∀ c ∈ digits, c.isDigit = true) :
    readNumeral? digits = some (numeralValue digits) :=
  if_pos ⟨hne, List.all_eq_true.mpr hdigits⟩

@[simp] theorem readNumeral?_natText (n : Nat) : readNumeral? (natText n).toList = some n := by
  have ne : (natText n).toList ≠ [] := by simp
  rw [readNumeral?_of_isDigit ne fun _ ↦ isDigit_of_mem_natText, numeralValue_natText]

/-- Zeros on the left do not count. -/
theorem numeralValue_replicate_append (n : Nat) (digits : List Char) :
    numeralValue (List.replicate n '0' ++ digits) = numeralValue digits := by
  simp [numeralValue, Nat.ofDigitChars_append]

@[simp] theorem numeralValue_padZeros (width n : Nat) :
    numeralValue (padZeros width (natText n)).toList = n := by
  simp [padZeros, numeralValue_replicate_append, - toList_natText]

end ExactCalc.Text
