import ExactCalc.Proofs.Reading.Precision
import ExactCalc.Proofs.Rpn.Text

/-!
# What is written for a whole number of units

A decimal reading is written from a whole number, the value in units of the last place, and nothing
of this number is lost. Its sign, its quotient and its remainder go into the text apart from each
other, the remainder with zeros in front of it. As these zeros fill all the places, the digits on
both sides of the point are together the digits of the number, with zeros in front at most.

So the text is a numeral of the value. Without its point it is the text of a whole number again, the
one that was written, and no other number has the same text.
-/

namespace ExactCalc

namespace Reading

/-- The whole number that is read when the point is deleted. -/
def readWithoutPoint? (text : List Char) : Option Int :=
  Rpn.Token.readNumber? (text.filter (· ≠ '.'))

namespace FixedPoint

variable {p : FixedPoint} {places : Nat}

theorem HasPlaces.isDigit_digits (hp : p.HasPlaces places) :
    ∀ c ∈ p.whole ++ p.fraction, c.isDigit = true :=
  Decimal.isDigit_append hp.isDigit_whole hp.isDigit_fraction

theorem HasPlaces.isDigit_head?_unsigned (hp : p.HasPlaces places) :
    ∀ c ∈ p.unsigned.head?, c.isDigit = true := by
  intro c hc
  rw [unsigned, List.head?_append_of_ne_nil _ hp.whole_ne_nil] at hc
  exact hp.isDigit_whole c (List.mem_of_mem_head? hc)

theorem HasPlaces.readMagnitude?_unsigned (hp : p.HasPlaces places) :
    Numeral.readMagnitude? p.unsigned =
      some ⟨Text.numeralValue (p.whole ++ p.fraction), -p.fraction.length⟩ := by
  unfold unsigned
  split
  · next hnil =>
    rw [Numeral.readMagnitude?_of_no_point [] hp.isDigit_whole hp.whole_ne_nil (by simp), hnil,
      List.append_nil]
    rfl
  · exact Numeral.readMagnitude?_point hp.isDigit_whole hp.whole_ne_nil hp.isDigit_fraction

/-- The text is a numeral of the value. -/
theorem HasPlaces.exists_read?_chars (hp : p.HasPlaces places) :
    ∃ d, Numeral.read? p.chars = some (.finite d) ∧ d.toRat = p.toRat := by
  let d : Decimal := ⟨Text.numeralValue (p.whole ++ p.fraction), -p.fraction.length⟩
  have hread : Numeral.read? p.chars = some (.finite (if p.negative then d.negate else d)) := by
    rw [chars_eq]
    exact Numeral.read?_of_readMagnitude? hp.isDigit_head?_unsigned hp.readMagnitude?_unsigned _
  have hvalue : d.toRat = p.magnitude := by
    rw [Decimal.toRat, magnitude, zpow_neg, zpow_natCast, ← div_eq_mul_inv, Int.cast_natCast]
  refine ⟨_, hread, ?_⟩
  rw [toRat]
  split
  · rw [Decimal.toRat_negate, hvalue]
  · exact hvalue

theorem filter_ne_point {digits : List Char} (h : ∀ c ∈ digits, c.isDigit = true) :
    digits.filter (· ≠ '.') = digits := by
  rw [List.filter_eq_self]
  exact fun c hc ↦ decide_eq_true (ne_of_isDigit (h c hc) (by decide))

/-- Only the point goes, and what is left are the digits behind the sign. -/
theorem HasPlaces.filter_chars (hp : p.HasPlaces places) :
    p.chars.filter (· ≠ '.') =
      (if p.negative then ['-'] else []) ++ (p.whole ++ p.fraction) := by
  have hsign : (if p.negative then ['-'] else []).filter (· ≠ '.') =
      if p.negative then ['-'] else [] := by
    cases p.negative <;> rfl
  have hpoint : (if p.fraction = [] then [] else '.' :: p.fraction).filter (· ≠ '.') =
      p.fraction.filter (· ≠ '.') := by
    split
    · next hnil => rw [hnil]
    · rfl
  rw [chars, List.filter_append, List.filter_append, hsign, hpoint,
    filter_ne_point hp.isDigit_whole, filter_ne_point hp.isDigit_fraction]

theorem HasPlaces.readWithoutPoint?_chars (hp : p.HasPlaces places) :
    readWithoutPoint? p.chars =
      let n : Int := Text.numeralValue (p.whole ++ p.fraction)
      some (if p.negative then -n else n) := by
  have hne : p.whole ++ p.fraction ≠ [] := List.append_ne_nil_of_left_ne_nil hp.whole_ne_nil _
  have hread := Text.readNumeral?_of_isDigit hne hp.isDigit_digits
  rw [readWithoutPoint?, hp.filter_chars]
  cases p.negative with
  | true =>
    rw [if_pos rfl, List.singleton_append, Rpn.Token.readNumber?, hread]
    rfl
  | false =>
    rw [if_neg Bool.false_ne_true, List.nil_append,
      Rpn.Token.readNumber?_of_isDigit hp.isDigit_digits, hread]
    rfl

end FixedPoint

/-- Deleting the point leads back to the whole number. -/
theorem readWithoutPoint?_ofScaled {places : Nat} (h : places < 2 ^ 32) (n : Int) :
    readWithoutPoint? (ofScaled n places).toList = some n := by
  have hvalue : (if n < 0 then -(n.natAbs : Int) else n.natAbs) = n := by
    split <;> omega
  rw [toList_ofScaled h, (FixedPoint.hasPlaces_ofScaled n places).readWithoutPoint?_chars,
    FixedPoint.numeralValue_ofScaled]
  simpa [FixedPoint.ofScaled] using hvalue

/-- The text is a numeral of the value, with the places asked for and a sign exactly for a negative
number; the number is read from it when the point is deleted, so different numbers have different
texts. -/
theorem ofScaled_loses_nothing (places : Nat) (h : places < 2 ^ 32) :
    (∀ n : Int,
      (∃ d, Numeral.read? (ofScaled n places).toList = some (.finite d) ∧
        d.toRat = n / 10 ^ places) ∧
      (∃ p : FixedPoint, (ofScaled n places).toList = p.chars ∧ p.HasPlaces places ∧
        (p.negative = true ↔ n < 0)) ∧
      readWithoutPoint? (ofScaled n places).toList = some n) ∧
    Function.Injective fun n ↦ ofScaled n places := by
  constructor
  · intro n
    have hplaces := FixedPoint.hasPlaces_ofScaled n places
    refine ⟨?_, ⟨.ofScaled n places, toList_ofScaled h n, hplaces, decide_eq_true_iff⟩,
      readWithoutPoint?_ofScaled h n⟩
    rw [toList_ofScaled h, ← FixedPoint.toRat_ofScaled]
    exact hplaces.exists_read?_chars
  · intro m n hmn
    have htext : (ofScaled m places).toList = (ofScaled n places).toList := congrArg _ hmn
    have hread : some m = some n := calc
      some m = readWithoutPoint? (ofScaled m places).toList := (readWithoutPoint?_ofScaled h m).symm
      _ = readWithoutPoint? (ofScaled n places).toList := by rw [htext]
      _ = some n := readWithoutPoint?_ofScaled h n
    exact Option.some_inj.mp hread

/-- Zeros stand on both sides of the point, and the sign in front of them. -/
theorem ofScaled_loses_nothing_below_one :
    2 < 2 ^ 32 ∧ ofScaled (-5) 2 = "-0.05" ∧ ofScaled 5 2 = "0.05" ∧
      (∃ d, Numeral.read? (ofScaled (-5) 2).toList = some (.finite d) ∧
        d.toRat = (-5 : Int) / 10 ^ 2) ∧
      readWithoutPoint? (ofScaled (-5) 2).toList = some (-5) ∧
      Function.Injective fun n ↦ ofScaled n 2 := by
  obtain ⟨hall, hinjective⟩ := ofScaled_loses_nothing 2 (by decide)
  obtain ⟨hvalue, -, hread⟩ := hall (-5)
  exact ⟨by decide, by decide +kernel, by decide +kernel, hvalue, hread, hinjective⟩

end Reading

end ExactCalc
