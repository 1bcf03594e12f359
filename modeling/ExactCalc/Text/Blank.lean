import ExactCalc.Text.CharRange

/-!
# Blank characters

The characters with the Unicode property White_Space. An expression loses all of them, wherever they
stand; the text of a setting loses those at its two ends.
-/

namespace ExactCalc.Text

/-- The code points with the property White_Space. -/
def blankRanges : List CharRange :=
  [⟨0x9, 0xD⟩, ⟨0x20, 0x20⟩, ⟨0x85, 0x85⟩, ⟨0xA0, 0xA0⟩, ⟨0x1680, 0x1680⟩, ⟨0x2000, 0x200A⟩,
    ⟨0x2028, 0x2029⟩, ⟨0x202F, 0x202F⟩, ⟨0x205F, 0x205F⟩, ⟨0x3000, 0x3000⟩]

def isBlank (c : Char) : Bool :=
  CharRange.anyContains blankRanges c

def dropBlanks (text : List Char) : List Char :=
  text.filter fun c ↦ !isBlank c

def trimBlanks (text : List Char) : List Char :=
  ((text.dropWhile isBlank).reverse.dropWhile isBlank).reverse

@[simp] theorem mem_dropBlanks {c : Char} {text : List Char} :
    c ∈ dropBlanks text ↔ c ∈ text ∧ isBlank c = false := by
  simp [dropBlanks]

theorem dropBlanks_eq_nil_iff {text : List Char} :
    dropBlanks text = [] ↔ ∀ c ∈ text, isBlank c = true := by
  simp [dropBlanks]

@[simp] theorem dropBlanks_dropBlanks (text : List Char) :
    dropBlanks (dropBlanks text) = dropBlanks text := by
  simp [dropBlanks]

theorem dropWhile_isBlank_eq_nil_iff {text : List Char} :
    text.dropWhile isBlank = [] ↔ ∀ c ∈ text, isBlank c = true := by
  constructor
  · intro h
    have htext := List.takeWhile_append_dropWhile (p := isBlank) (l := text)
    rw [h, List.append_nil] at htext
    rw [← htext]
    exact List.all_eq_true.mp List.all_takeWhile
  · intro h
    rw [← List.append_nil text, List.dropWhile_append_of_pos h, List.dropWhile_nil]

/-- Nothing is left between the blanks at the two ends exactly when nothing but blanks was there. -/
theorem trimBlanks_eq_nil_iff {text : List Char} : trimBlanks text = [] ↔ dropBlanks text = [] := by
  rw [trimBlanks, List.reverse_eq_nil_iff, dropWhile_isBlank_eq_nil_iff, dropBlanks_eq_nil_iff]
  constructor
  · intro h c hc
    rw [← List.takeWhile_append_dropWhile (p := isBlank) (l := text), List.mem_append] at hc
    rcases hc with hc | hc
    · exact List.all_eq_true.mp List.all_takeWhile c hc
    · exact h c (List.mem_reverse.mpr hc)
  · intro h
    simp [dropWhile_isBlank_eq_nil_iff.mpr h]

end ExactCalc.Text
