import ExactCalc.Infix.Cleaning

/-!
# What cleaning refuses

A text of blanks is refused as blank. Any other text is refused for the first character that is
neither a blank nor in the alphabet, wherever it stands: cleaning looks at every character before
anything is said about the structure of the text.
-/

namespace ExactCalc

namespace Text

/-- No character of an expression is blank. -/
theorem isBlank_of_isExpressionChar {c : Char} (h : Infix.isExpressionChar c = true) :
    isBlank c = false := by
  have hrange : 0x28 ≤ c.toNat ∧ c.toNat ≤ 0x39 := by
    have hmarks : ∀ mark ∈ ['+', '-', '*', '/', '(', ')'],
        0x28 ≤ mark.toNat ∧ mark.toNat ≤ 0x39 := by
      simp
    simp only [Infix.isExpressionChar, Bool.or_eq_true, decide_eq_true_eq] at h
    rcases h with hdigit | hmark
    · simp only [Char.isDigit, Bool.and_eq_true, decide_eq_true_eq] at hdigit
      have hlower : 0x30 ≤ c.toNat := hdigit.1
      have hupper : c.toNat ≤ 0x39 := hdigit.2
      omega
    · exact hmarks c hmark
  have hoff : ∀ range ∈ blankRanges, range.last < 0x28 ∨ 0x39 < range.first := by decide
  rw [← Bool.not_eq_true, isBlank, CharRange.anyContains_iff]
  rintro ⟨range, hmem, hfirst, hlast⟩
  have := hoff range hmem
  omega

end Text

namespace Infix

/-- The character is neither a blank nor in the alphabet, and each one before it is. -/
def IsFirstForeign (text : List Char) (c : Char) : Prop :=
  ∃ front tail, text = front ++ c :: tail ∧ Text.isBlank c = false ∧ isExpressionChar c = false ∧
    ∀ d ∈ front, Text.isBlank d = true ∨ isExpressionChar d = true

/-- There is something to read, in the alphabet but for blanks. -/
structure IsSpelled (text : List Char) : Prop where
  exists_not_blank : ∃ c ∈ text, Text.isBlank c = false
  blank_or_isExpressionChar : ∀ c ∈ text, Text.isBlank c = true ∨ isExpressionChar c = true

theorem IsFirstForeign.not_blank {text : List Char} {c : Char} (h : IsFirstForeign text c) :
    ¬ ∀ d ∈ text, Text.isBlank d = true := by
  obtain ⟨front, tail, rfl, hblank, -, -⟩ := h
  intro hall
  have hc := hall c (by simp)
  rw [hblank] at hc
  exact absurd hc (by simp)

theorem IsSpelled.not_isFirstForeign {text : List Char} (h : IsSpelled text) (c : Char) :
    ¬ IsFirstForeign text c := by
  intro hforeign
  obtain ⟨front, tail, rfl, hblank, hchar, -⟩ := hforeign
  have hc := h.blank_or_isExpressionChar c (by simp)
  rw [hblank, hchar] at hc
  exact absurd hc (by simp)

theorem IsSpelled.not_blank {text : List Char} (h : IsSpelled text) :
    ¬ ∀ c ∈ text, Text.isBlank c = true := by
  obtain ⟨c, hc, hblank⟩ := h.exists_not_blank
  intro hall
  rw [hall c hc] at hblank
  exact absurd hblank (by simp)

theorem find?_dropBlanks_eq_some_iff {text : List Char} {c : Char} :
    (Text.dropBlanks text).find? (!isExpressionChar ·) = some c ↔ IsFirstForeign text c := by
  rw [Text.dropBlanks, List.find?_filter, List.find?_eq_some_iff_append]
  constructor
  · intro h
    obtain ⟨hc, front, tail, rfl, hfront⟩ := h
    have hc' : Text.isBlank c = false ∧ isExpressionChar c = false := by simpa using hc
    refine ⟨front, tail, rfl, hc'.1, hc'.2, fun d hd ↦ ?_⟩
    cases hblank : Text.isBlank d
    · exact Or.inr (by simpa [hblank] using hfront d hd)
    · exact Or.inl rfl
  · intro h
    obtain ⟨front, tail, rfl, hblank, hchar, hfront⟩ := h
    refine ⟨by simp [hblank, hchar], front, tail, rfl, fun d hd ↦ ?_⟩
    rcases hfront d hd with hd | hd <;> simp [hd]

theorem IsFirstForeign.unique {text : List Char} {c d : Char} (hc : IsFirstForeign text c)
    (hd : IsFirstForeign text d) : c = d := by
  rw [← find?_dropBlanks_eq_some_iff] at hc hd
  exact Option.some.inj (hc.symm.trans hd)

/-- Cleaning refuses a text for being blank, or for its first foreign character. -/
theorem clean_eq_error_iff {text : List Char} {cause : Rejection} :
    clean text = .error cause ↔
      (∀ c ∈ text, Text.isBlank c = true) ∧ cause = .blank ∨
        ∃ c, IsFirstForeign text c ∧ cause = .forbidden c := by
  rw [clean]
  by_cases hnil : Text.dropBlanks text = []
  · have hblank := Text.dropBlanks_eq_nil_iff.mp hnil
    have hnot : ¬ ∃ c, IsFirstForeign text c ∧ cause = .forbidden c := by
      rintro ⟨c, hc, -⟩
      exact hc.not_blank hblank
    rw [if_pos (List.isEmpty_iff.mpr (Text.trimBlanks_eq_nil_iff.mpr hnil)), Except.error.injEq, eq_comm]
    simp only [hnot, or_false, iff_and_self]
    exact fun _ ↦ hblank
  · have hblank : ¬ ∀ c ∈ text, Text.isBlank c = true := mt Text.dropBlanks_eq_nil_iff.mpr hnil
    have htrim : Text.trimBlanks text ≠ [] := mt Text.trimBlanks_eq_nil_iff.mp hnil
    rw [if_neg (mt List.isEmpty_iff.mp htrim)]
    simp only [hblank, false_and, false_or, ← find?_dropBlanks_eq_some_iff]
    cases (Text.dropBlanks text).find? (!isExpressionChar ·) with
    | none => simp
    | some c =>
      rw [Except.error.injEq]
      constructor
      · intro h
        exact ⟨c, rfl, h.symm⟩
      · intro h
        obtain ⟨d, hd, rfl⟩ := h
        rw [Option.some.inj hd]

theorem isSpelled_of_clean {text cleaned : List Char} (h : clean text = .ok cleaned) :
    IsSpelled text := by
  obtain ⟨rfl, hne, hall⟩ := clean_eq_ok_iff.mp h
  constructor
  · simpa [Text.dropBlanks] using hne
  · intro c hc
    cases hblank : Text.isBlank c
    · exact Or.inr (hall c (Text.mem_dropBlanks.mpr ⟨hc, hblank⟩))
    · exact Or.inl rfl

/-- What cleaning leaves is clean. -/
theorem clean_of_clean {text cleaned : List Char} (h : clean text = .ok cleaned) :
    clean cleaned = .ok cleaned := by
  obtain ⟨rfl, hne, hall⟩ := clean_eq_ok_iff.mp h
  exact clean_eq_ok_iff.mpr ⟨(Text.dropBlanks_dropBlanks text).symm, hne, hall⟩

end Infix

end ExactCalc
