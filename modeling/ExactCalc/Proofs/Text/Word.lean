import ExactCalc.Proofs.Infix.Cleaning
import ExactCalc.Proofs.Text.Run
import ExactCalc.Text.Word
import Mathlib.Tactic.Common

/-!
# Reading a machine word

The texts of words are a language: an optional plus sign and one or more ASCII digits, zeros in front
included, whose number has 64 bits. The reader follows the digits from the left and stops at the
first value that is too large; since values only grow from there on, it gives the number of exactly
these texts. Blanks at the two ends of a text are trimmed before it is read.
-/

namespace ExactCalc.Text

/-- A number in ASCII digits, with or without a plus sign. -/
def SpellsNumber (text : List Char) (n : Nat) : Prop :=
  ∃ sign digits, text = sign ++ digits ∧ (sign = [] ∨ sign = ['+']) ∧ digits ≠ [] ∧
    (∀ c ∈ digits, c.isDigit = true) ∧ numeralValue digits = n

/-- Nothing but blanks stands before and behind the number. -/
def HoldsNumber (text : List Char) (n : Nat) : Prop :=
  ∃ front body back, text = front ++ body ++ back ∧ (∀ c ∈ front, isBlank c = true) ∧
    (∀ c ∈ back, isBlank c = true) ∧ SpellsNumber body n

theorem le_ofDigitChars (digits : List Char) (value : Nat) :
    value ≤ Nat.ofDigitChars 10 digits value := by
  rw [Nat.ofDigitChars_eq_ofDigitChars_zero]
  have hpow : 0 < 10 ^ digits.length := Nat.pow_pos (by decide)
  exact Nat.le_add_right_of_le (Nat.le_mul_of_pos_left value hpow)

theorem readWordDigits_eq_ok_iff {value n : Nat} {digits : List Char} (hvalue : value < wordBound) :
    readWordDigits value digits = .ok n ↔
      (∀ c ∈ digits, c.isDigit = true) ∧ Nat.ofDigitChars 10 digits value = n ∧ n < wordBound := by
  induction digits generalizing value with
  | nil =>
    rw [readWordDigits, Except.ok.injEq, Nat.ofDigitChars_nil]
    constructor
    · intro h
      exact ⟨by simp, h, h ▸ hvalue⟩
    · exact fun h ↦ h.2.1
  | cons c rest ih =>
    rw [readWordDigits, List.forall_mem_cons, Nat.ofDigitChars_cons]
    by_cases hdigit : c.isDigit = true
    · rw [if_pos hdigit]
      by_cases hnext : 10 * value + (c.toNat - '0'.toNat) < wordBound
      · simp only [if_pos hnext, ih hnext, hdigit, true_and]
      · -- From a value that is too large no further digit leads back.
        have hlarge := le_ofDigitChars rest (10 * value + (c.toNat - '0'.toNat))
        simp only [if_neg hnext, reduceCtorEq, false_iff]
        rintro ⟨-, hn, hlt⟩
        omega
    · simp [hdigit]

theorem spellsNumber_cons_iff {c : Char} {rest : List Char} {n : Nat} (hc : c ≠ '+') :
    SpellsNumber (c :: rest) n ↔
      (∀ d ∈ c :: rest, d.isDigit = true) ∧ numeralValue (c :: rest) = n := by
  constructor
  · rintro ⟨sign, digits, htext, rfl | rfl, -, hdigits, hn⟩
    · rw [List.nil_append] at htext
      rw [htext]
      exact ⟨hdigits, hn⟩
    · rw [List.singleton_append, List.cons.injEq] at htext
      exact absurd htext.1 hc
  · rintro ⟨hdigits, hn⟩
    exact ⟨[], c :: rest, rfl, .inl rfl, by simp, hdigits, hn⟩

theorem spellsNumber_plus_iff {digits : List Char} {n : Nat} :
    SpellsNumber ('+' :: digits) n ↔
      digits ≠ [] ∧ (∀ d ∈ digits, d.isDigit = true) ∧ numeralValue digits = n := by
  constructor
  · rintro ⟨sign, digits', htext, rfl | rfl, hne, hdigits, hn⟩
    · -- The plus sign is no digit.
      rw [List.nil_append] at htext
      have hplus := hdigits '+' (by simp [← htext])
      exact absurd hplus (by decide)
    · rw [List.singleton_append, List.cons.injEq] at htext
      rw [htext.2]
      exact ⟨hne, hdigits, hn⟩
  · rintro ⟨hne, hdigits, hn⟩
    exact ⟨['+'], digits, rfl, .inr rfl, hne, hdigits, hn⟩

theorem wordBound_pos : 0 < wordBound := by
  decide

/-- The reader accepts the texts of words and gives their numbers. -/
theorem readWord_eq_ok_iff {text : List Char} {n : Nat} :
    readWord text = .ok n ↔ SpellsNumber text n ∧ n < wordBound := by
  unfold readWord
  split
  · next =>
    simp only [reduceCtorEq, false_iff]
    rintro ⟨⟨sign, digits, htext, -, hne, -⟩, -⟩
    exact hne (List.append_eq_nil_iff.mp htext.symm).2
  · next => simp [spellsNumber_plus_iff]
  · next digits hne =>
    rw [readWordDigits_eq_ok_iff wordBound_pos, spellsNumber_plus_iff, and_assoc, and_assoc]
    exact (and_iff_right hne).symm
  · next hnil _ hplus =>
    obtain ⟨c, rest, rfl⟩ := List.exists_cons_of_ne_nil hnil
    have hc : c ≠ '+' := fun h ↦ hplus rest (by rw [h])
    rw [readWordDigits_eq_ok_iff wordBound_pos, spellsNumber_cons_iff hc, and_assoc]
    rfl

theorem SpellsNumber.isBlank_eq_false {text : List Char} {n : Nat} (h : SpellsNumber text n) :
    ∀ c ∈ text, isBlank c = false := by
  obtain ⟨sign, digits, rfl, hsign, -, hdigits, -⟩ := h
  intro c hc
  apply isBlank_of_isExpressionChar
  rcases List.mem_append.mp hc with hc | hc
  · rcases hsign with rfl | rfl
    · simp at hc
    · rw [List.mem_singleton.mp hc]
      decide
  · simp [Infix.isExpressionChar, hdigits c hc]

theorem trimBlanks_append {front body back : List Char} (hfront : ∀ c ∈ front, isBlank c = true)
    (hback : ∀ c ∈ back, isBlank c = true) (hbody : ∀ c ∈ body, isBlank c = false) :
    trimBlanks (front ++ body ++ back) = body := by
  by_cases hnil : body = []
  · rw [trimBlanks_eq_nil_iff.mpr, hnil]
    rw [dropBlanks_eq_nil_iff, hnil, List.append_nil]
    exact fun c hc ↦ (List.mem_append.mp hc).elim (hfront c) (hback c)
  · have hleft : (front ++ (body ++ back)).dropWhile isBlank = body ++ back := by
      obtain ⟨first, rest, rfl⟩ := List.exists_cons_of_ne_nil hnil
      refine (takeWhile_append_of_stop hfront fun c hc ↦ ?_).2
      rw [← Option.some.inj hc]
      exact hbody first (by simp)
    have hright : (back.reverse ++ body.reverse).dropWhile isBlank = body.reverse := by
      refine (takeWhile_append_of_stop (by simpa using hback) fun c hc ↦ ?_).2
      exact hbody c (List.mem_reverse.mp (List.mem_of_mem_head? hc))
    rw [trimBlanks, List.append_assoc, hleft, List.reverse_append, hright, List.reverse_reverse]

theorem exists_trimBlanks_append (text : List Char) :
    ∃ front back, text = front ++ trimBlanks text ++ back ∧ (∀ c ∈ front, isBlank c = true) ∧
      ∀ c ∈ back, isBlank c = true := by
  let rest := text.dropWhile isBlank
  refine ⟨text.takeWhile isBlank, (rest.reverse.takeWhile isBlank).reverse, ?_, ?_, ?_⟩
  · rw [trimBlanks, List.append_assoc, ← List.reverse_append, List.takeWhile_append_dropWhile,
      List.reverse_reverse, List.takeWhile_append_dropWhile]
  · exact List.all_eq_true.mp List.all_takeWhile
  · intro c hc
    exact List.all_eq_true.mp List.all_takeWhile c (List.mem_reverse.mp hc)

/-- Trimming finds the number that stands between blanks. -/
theorem holdsNumber_iff {text : List Char} {n : Nat} :
    HoldsNumber text n ↔ SpellsNumber (trimBlanks text) n := by
  constructor
  · rintro ⟨front, body, back, rfl, hfront, hback, hbody⟩
    rwa [trimBlanks_append hfront hback hbody.isBlank_eq_false]
  · intro h
    obtain ⟨front, back, htext, hfront, hback⟩ := exists_trimBlanks_append text
    exact ⟨front, trimBlanks text, back, htext, hfront, hback, h⟩

/-- Blanks at the ends do not count for a word either. -/
theorem readWord_trimBlanks_eq_ok_iff {text : List Char} {n : Nat} :
    readWord (trimBlanks text) = .ok n ↔ HoldsNumber text n ∧ n < wordBound := by
  rw [readWord_eq_ok_iff, holdsNumber_iff]

end ExactCalc.Text
