import ExactCalc.Decimal.Numeral
import ExactCalc.Proofs.Text.Run
import Mathlib.Algebra.Ring.Int.Defs

/-!
# Reading numerals

The parts of a numeral are read one after the other: the digits before the point, those behind it,
and the exponent. A point or an exponent may be missing; a numeral without sign starts with a digit.
-/

namespace ExactCalc.Numeral

variable {whole fraction : List Char}

theorem readMagnitude?_of_no_point (tail : List Char) (hwhole : ∀ c ∈ whole, c.isDigit = true)
    (hne : whole ≠ []) (htail : ∀ c ∈ tail.head?, c.isDigit = false ∧ c ≠ '.') :
    readMagnitude? (whole ++ tail) =
      (readTail? tail).map fun exponent ↦ ⟨Text.numeralValue whole, exponent⟩ := by
  obtain ⟨htake, hdrop⟩ := Text.takeWhile_append_of_stop hwhole fun c hc ↦ (htail c hc).1
  unfold readMagnitude?
  simp only [htake, hdrop]
  split
  · exact absurd rfl (htail '.' rfl).2
  · simp [hne]

theorem readMagnitude?_of_point (tail : List Char) (hwhole : ∀ c ∈ whole, c.isDigit = true)
    (hne : whole ≠ []) (hfraction : ∀ c ∈ fraction, c.isDigit = true)
    (htail : ∀ c ∈ tail.head?, c.isDigit = false) :
    readMagnitude? (whole ++ '.' :: (fraction ++ tail)) =
      (readTail? tail).map fun exponent ↦
        ⟨Text.numeralValue (whole ++ fraction), exponent - fraction.length⟩ := by
  have hpoint : ∀ c ∈ ('.' :: (fraction ++ tail)).head?, c.isDigit = false := by simp
  obtain ⟨htake, hdrop⟩ := Text.takeWhile_append_of_stop hwhole hpoint
  obtain ⟨htake', hdrop'⟩ := Text.takeWhile_append_of_stop hfraction htail
  unfold readMagnitude?
  rw [htake, hdrop]
  simp [hne, htake', hdrop']

/-- Without an exponent the digits behind the point are the places of the numeral. -/
theorem readMagnitude?_point (hwhole : ∀ c ∈ whole, c.isDigit = true) (hne : whole ≠ [])
    (hfraction : ∀ c ∈ fraction, c.isDigit = true) :
    readMagnitude? (whole ++ '.' :: fraction) =
      some ⟨Text.numeralValue (whole ++ fraction), -fraction.length⟩ := by
  have hread := readMagnitude?_of_point [] hwhole hne hfraction (by simp)
  rwa [List.append_nil, readTail?, Option.map_some, zero_sub] at hread

/-- An exponent with its sign. -/
def exponentText (e : Int) : List Char :=
  'e' :: (if e < 0 then '-' else '+') :: (Text.natText e.natAbs).toList

theorem readTail?_exponentText (e : Int) : readTail? (exponentText e) = some e := by
  unfold exponentText
  split
  · next hneg =>
    have hvalue : -(e.natAbs : Int) = e := by omega
    rw [readTail?, readExponent?, Text.readNumeral?_natText]
    exact congrArg some hvalue
  · next hnonneg =>
    have hvalue : (e.natAbs : Int) = e := by omega
    rw [readTail?, readExponent?, Text.readNumeral?_natText]
    exact congrArg some hvalue

/-- A minus sign in front makes the decimal negative. -/
theorem read?_of_readMagnitude? {text : List Char} {d : Decimal}
    (hdigit : ∀ c ∈ text.head?, c.isDigit = true) (h : readMagnitude? text = some d)
    (negative : Bool) :
    read? (if negative then '-' :: text else text) =
      some (finite (if negative then d.negate else d)) := by
  cases negative with
  | true => simp [read?, readUnsigned?, h]
  | false =>
    have hread : read? text = readUnsigned? false text := by
      unfold read?
      split
      · exact absurd (hdigit '-' rfl) (by decide)
      · exact absurd (hdigit '+' rfl) (by decide)
      · rfl
    simp [hread, readUnsigned?, h]

end ExactCalc.Numeral
