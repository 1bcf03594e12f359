import ExactCalc.Proofs.Json.Grammar
import ExactCalc.Proofs.Text.Run

/-!
# Reading number literals

A number has no closing mark, so it is read from a text that spells it only when what follows does
not carry the number on. Each part is read up to the first character that none of the later parts
begins with.
-/

namespace ExactCalc.Json.NumberLiteral

variable {text rest digits : List Char}

/-- The text does not begin with a digit. -/
def EndsDigits (rest : List Char) : Prop := ∀ c ∈ rest.head?, c.isDigit = false

/-- The text does not begin with a character that carries a number on. -/
def EndsNumber (rest : List Char) : Prop :=
  ∀ c ∈ rest.head?, c.isDigit = false ∧ c ≠ '.' ∧ c ≠ 'e' ∧ c ≠ 'E'

theorem EndsNumber.endsDigits (h : EndsNumber rest) : EndsDigits rest := fun c hc ↦ (h c hc).1

theorem IsDigits.exists_cons (h : IsDigits digits) :
    ∃ c tail, digits = c :: tail ∧ c.isDigit = true := by
  obtain ⟨c, tail, rfl⟩ := List.exists_cons_of_ne_nil h.ne_nil
  exact ⟨c, tail, rfl, h.isDigit c (by simp)⟩

theorem IsDigits.readDigits?_append (h : IsDigits digits) (hrest : EndsDigits rest) :
    readDigits? (digits ++ rest) = some (digits, rest) := by
  obtain ⟨htake, hdrop⟩ := Text.takeWhile_append_of_stop h.isDigit hrest
  simp [readDigits?, htake, hdrop, h.ne_nil]

theorem IsWhole.readWhole?_append (h : IsWhole digits) (hrest : EndsDigits rest) :
    readWhole? (digits ++ rest) = some (digits, rest) := by
  have hzero : ¬ (digits.length ≠ 1 ∧ digits.head? = some '0') := by
    intro hzero
    exact hzero.1 (by rw [h.eq_zero hzero.2, List.length_singleton])
  simp [readWhole?, h.toIsDigits.readDigits?_append hrest, hzero]

theorem SpellsFraction.readFraction?_append {fraction : List Char}
    (h : SpellsFraction text fraction) (hdigits : EndsDigits rest)
    (hpoint : ∀ c ∈ rest.head?, c ≠ '.') :
    readFraction? (text ++ rest) = some (fraction, rest) := by
  cases h with
  | absent =>
    rw [List.nil_append]
    unfold readFraction?
    split
    · exact absurd rfl (hpoint '.' rfl)
    · rfl
  | present digits => exact digits.readDigits?_append hdigits

/-- The sign of an exponent is read first, so digits without one are read as they are. -/
theorem IsDigits.readSignedExponent?_append (h : IsDigits digits) (hrest : EndsDigits rest) :
    readSignedExponent? (digits ++ rest) = some ((Text.numeralValue digits : Int), rest) ∧
      readSignedExponent? ('+' :: (digits ++ rest)) =
        some ((Text.numeralValue digits : Int), rest) ∧
      readSignedExponent? ('-' :: (digits ++ rest)) =
        some (-(Text.numeralValue digits : Int), rest) := by
  have hread (sign : Int) : readExponentDigits? sign (digits ++ rest) =
      some (sign * Text.numeralValue digits, rest) := by
    rw [readExponentDigits?, h.readDigits?_append hrest, Option.map_some]
  refine ⟨?_, ?_, ?_⟩
  · obtain ⟨c, tail, rfl, hc⟩ := h.exists_cons
    have hplus : c ≠ '+' := by rintro rfl; exact absurd hc (by decide)
    have hminus : c ≠ '-' := by rintro rfl; exact absurd hc (by decide)
    have hunsigned := hread 1
    rw [Int.one_mul] at hunsigned
    simpa [readSignedExponent?, hplus, hminus] using hunsigned
  · simpa [readSignedExponent?] using hread 1
  · simpa [readSignedExponent?] using hread (-1)

theorem SpellsExponent.readExponent?_append {exponent : Int} (h : SpellsExponent text exponent)
    (hrest : EndsNumber rest) : readExponent? (text ++ rest) = some (exponent, rest) := by
  cases h with
  | absent =>
    rw [List.nil_append]
    unfold readExponent?
    split
    · exact absurd rfl (hrest 'e' rfl).2.2.1
    · exact absurd rfl (hrest 'E' rfl).2.2.2
    · rfl
  | unsigned isMark digits =>
    obtain ⟨hread, -, -⟩ := digits.readSignedExponent?_append hrest.endsDigits
    rcases isMark with rfl | rfl <;> exact hread
  | plus isMark digits =>
    obtain ⟨-, hread, -⟩ := digits.readSignedExponent?_append hrest.endsDigits
    rcases isMark with rfl | rfl <;> exact hread
  | minus isMark digits =>
    obtain ⟨-, -, hread⟩ := digits.readSignedExponent?_append hrest.endsDigits
    rcases isMark with rfl | rfl <;> exact hread

/-- An exponent begins with its mark, which neither carries digits on nor begins a fraction. -/
theorem SpellsExponent.ends_append {exponent : Int} (h : SpellsExponent text exponent)
    (hrest : EndsNumber rest) :
    EndsDigits (text ++ rest) ∧ ∀ c ∈ (text ++ rest).head?, c ≠ '.' := by
  have hmark {mark : Char} (tail : List Char) (isMark : mark = 'e' ∨ mark = 'E') :
      EndsDigits (mark :: tail) ∧ ∀ c ∈ (mark :: tail).head?, c ≠ '.' := by
    rcases isMark with rfl | rfl <;> simp [EndsDigits]
  cases h with
  | absent => exact ⟨hrest.endsDigits, fun c hc ↦ (hrest c hc).2.1⟩
  | unsigned isMark _ => exact hmark _ isMark
  | plus isMark _ => exact hmark _ isMark
  | minus isMark _ => exact hmark _ isMark

theorem SpellsFraction.endsDigits_append {fraction : List Char} (h : SpellsFraction text fraction)
    (hrest : EndsDigits rest) : EndsDigits (text ++ rest) := by
  cases h with
  | absent => exact hrest
  | present _ => simp [EndsDigits]

theorem readUnsigned?_append {whole fractionText fraction exponentText : List Char} {exponent : Int}
    (hwhole : IsWhole whole) (hfraction : SpellsFraction fractionText fraction)
    (hexponent : SpellsExponent exponentText exponent) (hrest : EndsNumber rest) (negative : Bool) :
    readUnsigned? negative (whole ++ (fractionText ++ exponentText) ++ rest) =
      some (⟨negative, whole, fraction, exponent⟩, rest) := by
  obtain ⟨hdigits, hpoint⟩ := hexponent.ends_append hrest
  have hreadWhole := hwhole.readWhole?_append (hfraction.endsDigits_append hdigits)
  have hreadFraction := hfraction.readFraction?_append hdigits hpoint
  simp [readUnsigned?, hreadWhole, hreadFraction, hexponent.readExponent?_append hrest]

/-- A number begins with its sign or with a digit. -/
theorem Spells.exists_cons {n : NumberLiteral} (h : Spells text n) :
    ∃ c tail, text = c :: tail ∧ (c = '-' ∨ c.isDigit = true) := by
  cases h with
  | positive whole _ _ =>
    obtain ⟨c, tail, rfl, hc⟩ := whole.toIsDigits.exists_cons
    exact ⟨c, _, rfl, .inr hc⟩
  | negative _ _ _ => exact ⟨'-', _, rfl, .inl rfl⟩

theorem Spells.read?_append {n : NumberLiteral} (h : Spells text n) (hrest : EndsNumber rest) :
    read? (text ++ rest) = some (n, rest) := by
  cases h with
  | positive whole fraction exponent =>
    have hread := readUnsigned?_append whole fraction exponent hrest false
    obtain ⟨c, tail, rfl, hc⟩ := whole.toIsDigits.exists_cons
    have hminus : c ≠ '-' := by rintro rfl; exact absurd hc (by decide)
    simpa [read?, hminus] using hread
  | negative whole fraction exponent =>
    exact readUnsigned?_append whole fraction exponent hrest true

end ExactCalc.Json.NumberLiteral
