import ExactCalc.Infix.Lexeme

/-!
# Scanning a text

The scanner cuts a text in front of every character that is not a digit, and its numbers are the runs
of digits between the other characters. Statements about scanned texts go by induction on the text,
one lexeme at a time.
-/

namespace ExactCalc.Infix.Lexeme

/-- Induction on a text by its lexemes: single characters, and runs of digits that are as long as
possible. -/
theorem textInduction {motive : List Char → Prop} (nil : motive [])
    (char : ∀ c rest, c.isDigit = false → motive rest → motive (c :: rest))
    (run : ∀ digits rest, digits ≠ [] → (∀ c ∈ digits, c.isDigit = true) →
      (∀ c ∈ rest.head?, c.isDigit = false) → motive rest → motive (digits ++ rest))
    (text : List Char) : motive text := by
  match text with
  | [] => exact nil
  | c :: rest =>
    by_cases hc : c.isDigit = true
    · have hdigits : ∀ d ∈ c :: rest.takeWhile Char.isDigit, d.isDigit = true := by
        intro d hd
        rcases List.mem_cons.mp hd with rfl | hd
        · exact hc
        · exact List.all_eq_true.mp List.all_takeWhile d hd
      have hends : ∀ d ∈ (rest.dropWhile Char.isDigit).head?, d.isDigit = false := by
        intro d hd
        have h := List.head?_dropWhile_not Char.isDigit rest
        rwa [Option.mem_def.mp hd] at h
      have hshorter := (List.dropWhile_sublist (p := Char.isDigit) (l := rest)).length_le
      have h := run (c :: rest.takeWhile Char.isDigit) (rest.dropWhile Char.isDigit) (by simp) hdigits
        hends (textInduction nil char run _)
      rwa [List.cons_append, List.takeWhile_append_dropWhile] at h
    · exact char c rest (by simpa using hc) (textInduction nil char run rest)
termination_by text.length
decreasing_by
  · simp
    omega
  · simp

/-- A text is cut in front of a character that is not a digit. -/
theorem scan_append (left : List Char) {right : List Char}
    (h : ∀ c ∈ right.head?, c.isDigit = false) : scan (left ++ right) = scan left ++ scan right := by
  induction left using textInduction with
  | nil => rfl
  | char c rest hc ih =>
    rw [List.cons_append, scan_cons_of_not_digit hc, scan_cons_of_not_digit hc, ih, List.cons_append]
  | run digits rest hne hdigits hends ih =>
    have hright : ∀ c ∈ (rest ++ right).head?, c.isDigit = false := by
      cases rest with
      | nil => exact h
      | cons c rest => exact hends
    rw [List.append_assoc, scan_digits_append hne hdigits hright, scan_digits_append hne hdigits hends,
      ih, List.cons_append]

/-- Digits at the beginning of a text begin its first number. -/
theorem exists_scan_digits_append {digits : List Char} (hne : digits ≠ [])
    (hdigits : ∀ c ∈ digits, c.isDigit = true) (rest : List Char) :
    ∃ more tail, scan (digits ++ rest) = number (digits ++ more) :: tail := by
  induction rest using textInduction with
  | nil =>
    have hends : ∀ c ∈ ([] : List Char).head?, c.isDigit = false := by simp
    have h := scan_digits_append hne hdigits hends
    refine ⟨[], scan [], ?_⟩
    rwa [List.append_nil] at h ⊢
  | char c rest hc ih =>
    refine ⟨[], scan (c :: rest), ?_⟩
    rw [List.append_nil]
    exact scan_digits_append hne hdigits (by simp [hc])
  | run more rest hmore hmoreDigits hends ih =>
    have hall : ∀ c ∈ digits ++ more, c.isDigit = true := by
      intro c hc
      rcases List.mem_append.mp hc with hc | hc
      · exact hdigits c hc
      · exact hmoreDigits c hc
    refine ⟨more, scan rest, ?_⟩
    rw [← List.append_assoc]
    exact scan_digits_append (by simp [hne]) hall hends

/-- The first lexemes of a text are those of the text that they spell. -/
theorem scan_flatMap_chars {text : List Char} {front : List Lexeme} (h : front <+: scan text) :
    scan (front.flatMap chars) = front := by
  induction text using textInduction generalizing front with
  | nil => rw [List.prefix_nil.mp h, List.flatMap_nil, scan_nil]
  | char c rest hc ih =>
    cases front with
    | nil => rfl
    | cons lexeme front =>
      rw [scan_cons_of_not_digit hc, List.cons_prefix_cons] at h
      obtain ⟨rfl, hfront⟩ := h
      rw [List.flatMap_cons, chars_ofChar, List.singleton_append, scan_cons_of_not_digit hc, ih hfront]
  | run digits rest hne hdigits hends ih =>
    cases front with
    | nil => rfl
    | cons lexeme front =>
      rw [scan_digits_append hne hdigits hends, List.cons_prefix_cons] at h
      obtain ⟨rfl, hfront⟩ := h
      have hread : front.flatMap chars <+: rest := by
        obtain ⟨tail, htail⟩ := hfront
        refine ⟨tail.flatMap chars, ?_⟩
        rw [← List.flatMap_append, htail, flatMap_chars_scan]
      have hends' : ∀ c ∈ (front.flatMap chars).head?, c.isDigit = false := by
        intro c hc
        obtain ⟨tail, htail⟩ := hread
        refine hends c ?_
        rw [← htail, List.head?_append, Option.mem_def.mp hc]
        rfl
      rw [List.flatMap_cons, chars, scan_digits_append hne hdigits hends', ih hfront]

theorem scan_concat_of_not_digit (text : List Char) {c : Char} (hc : c.isDigit = false) :
    scan (text ++ [c]) = scan text ++ [ofChar c] := by
  have hends : ∀ d ∈ [c].head?, d.isDigit = false := by simp [hc]
  rw [scan_append text hends, scan_cons_of_not_digit hc, scan_nil]

/-- A digit behind a character that is not one begins a number. -/
theorem scan_concat_of_digit {text : List Char} (hlast : ∀ d ∈ text.getLast?, d.isDigit = false)
    {c : Char} (hc : c.isDigit = true) : scan (text ++ [c]) = scan text ++ [number [c]] := by
  have hnumber : scan [c] = [number [c]] := scan_singleton_of_digit hc
  rcases List.eq_nil_or_concat text with rfl | ⟨front, d, rfl⟩
  · exact hnumber
  · rw [List.concat_eq_append] at hlast ⊢
    have hd : d.isDigit = false := hlast d (by simp)
    have hends : ∀ e ∈ (d :: [c]).head?, e.isDigit = false := by simp [hd]
    rw [scan_concat_of_not_digit front hd, List.append_assoc, List.singleton_append,
      scan_append front hends, scan_cons_of_not_digit hd, hnumber, List.append_assoc]
    rfl

theorem ofChar_injective {c d : Char} (h : ofChar c = ofChar d) : c = d := by
  have hchars := congrArg chars h
  simpa using hchars

/-- A character that is not a digit is a lexeme wherever it stands. -/
theorem count_scan (c : Char) (hc : c.isDigit = false) (text : List Char) :
    (scan text).count (ofChar c) = text.count c := by
  induction text using textInduction with
  | nil => rfl
  | char d rest hd ih =>
    have heq : ofChar d = ofChar c ↔ d = c := ⟨ofChar_injective, congrArg ofChar⟩
    simp [scan_cons_of_not_digit hd, List.count_cons, ih, heq]
  | run digits rest hne hdigits hends ih =>
    have hnot : c ∉ digits := by
      intro hmem
      rw [hdigits c hmem] at hc
      exact absurd hc (by simp)
    have hnumber : number digits ≠ ofChar c := fun h ↦ ofChar_ne_number c digits h.symm
    rw [scan_digits_append hne hdigits hends, List.count_cons_of_ne hnumber, ih, List.count_append,
      List.count_eq_zero.mpr hnot, Nat.zero_add]

/-- The runs of digits of a text that are as long as possible. -/
def digitRuns (text : List Char) : List (List Char) :=
  (text.splitOnP fun c ↦ !c.isDigit).filter (· ≠ [])

theorem digitRuns_cons {c : Char} (hc : c.isDigit = false) (rest : List Char) :
    digitRuns (c :: rest) = digitRuns rest := by
  simp [digitRuns, List.splitOnP_cons_eq_if_modifyHead, hc]

theorem digitRuns_append {digits : List Char} (hne : digits ≠ [])
    (hdigits : ∀ c ∈ digits, c.isDigit = true) {rest : List Char}
    (hends : ∀ c ∈ rest.head?, c.isDigit = false) :
    digitRuns (digits ++ rest) = digits :: digitRuns rest := by
  have hnone : ∀ c ∈ digits, (!c.isDigit) = false := fun c hc ↦ by simp [hdigits c hc]
  cases rest with
  | nil => simp [digitRuns, List.splitOnP_eq_singleton hnone, hne]
  | cons d rest =>
    have hd : d.isDigit = false := hends d rfl
    rw [digitRuns_cons hd, digitRuns,
      List.splitOnP_append_cons_of_forall_mem hnone d (by simp [hd])]
    simp [digitRuns, hne]

/-- The digits of a number. -/
def digits? : Lexeme → Option (List Char)
  | number digits => some digits
  | _ => none

theorem digits?_ofChar (c : Char) : (ofChar c).digits? = none := by
  cases h : ofChar c with
  | number digits => exact absurd h (ofChar_ne_number c digits)
  | _ => rfl

/-- The numbers of a scanned text are its runs of digits. -/
theorem filterMap_digits?_scan (text : List Char) :
    (scan text).filterMap digits? = digitRuns text := by
  induction text using textInduction with
  | nil => rfl
  | char c rest hc ih =>
    rw [scan_cons_of_not_digit hc, digitRuns_cons hc, List.filterMap_cons, digits?_ofChar, ih]
  | run digits rest hne hdigits hends ih =>
    rw [scan_digits_append hne hdigits hends, digitRuns_append hne hdigits hends, ← ih]
    rfl

end ExactCalc.Infix.Lexeme
