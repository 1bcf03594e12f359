import ExactCalc.Proofs.Json.Grammar

/-!
# Reading string literals

A literal is read from every text that spells it, up to the closing quote. The text of a literal is
what the literal denotes, and there is none exactly when it denotes nothing; units are escaped in
four hexadecimal digits, so they fit into sixteen bits, and no text is without a literal.
-/

namespace ExactCalc.Json.StringLiteral

variable {text : List Char} {literal : StringLiteral}

theorem hexDigit?_eq_some {c : Char} {n : Nat} (h : IsHexDigit c n) : hexDigit? c = some n := by
  have hdigits : ∀ n < 16, hexDigit? (Nat.digitChar n) = some n ∧
      hexDigit? (Nat.digitChar n).toUpper = some n := by decide
  obtain ⟨hn, rfl | rfl⟩ := h
  · exact (hdigits n hn).1
  · exact (hdigits n hn).2

theorem shortEscape?_eq_some {e c : Char} (h : (e, c) ∈ shortEscapes) :
    shortEscape? e = some c ∧ e ≠ 'u' := by
  have hescapes : ∀ p ∈ shortEscapes, shortEscape? p.1 = some p.2 ∧ p.1 ≠ 'u' := by decide
  exact hescapes _ h

/-- The literal is read up to the quote behind it. -/
theorem Spells.read?_eq (h : Spells text literal) (rest : List Char) :
    read? (text ++ '"' :: rest) = some (literal, rest) := by
  induction h with
  | nil => rfl
  | plain printable notQuote notBackslash _ ih =>
    simp [read?, ih, notBackslash, Nat.not_lt.mpr printable]
  | short mem _ ih =>
    obtain ⟨hescape, hnot⟩ := shortEscape?_eq_some mem
    simp [read?, ih, hescape, hnot]
  | unit first second third fourth _ ih =>
    simp [read?, ih, hexUnit?, hexDigit?_eq_some first, hexDigit?_eq_some second,
      hexDigit?_eq_some third, hexDigit?_eq_some fourth]

/-- The character is no control, no quote and no backslash. -/
def isPlain (c : Char) : Bool := 0x20 ≤ c.toNat && c ≠ '"' && c ≠ '\\'

/-- A text of plain characters spells itself. -/
theorem spells_plain (h : text.all isPlain = true) : Spells text (text.map .char) := by
  induction text with
  | nil => exact .nil
  | cons c text ih =>
    rw [List.all_cons, Bool.and_eq_true] at h
    obtain ⟨hplain, htext⟩ := h
    simp only [isPlain, Bool.and_eq_true, decide_eq_true_eq] at hplain
    exact .plain hplain.1.1 hplain.1.2 hplain.2 (ih htext)

/-- A unit of sixteen bits is spelled by its four hexadecimal digits. -/
theorem Spells.exists_unit (h : Spells text literal) {n : Nat} (hn : n < 0x10000) :
    ∃ escaped, Spells escaped (.unit n :: literal) := by
  have hdigit (m : Nat) : IsHexDigit (Nat.digitChar (m % 16)) (m % 16) :=
    ⟨Nat.mod_lt m (by decide), .inl rfl⟩
  have hspells := h.unit (hdigit (n / 4096)) (hdigit (n / 256)) (hdigit (n / 16)) (hdigit n)
  have hvalue : ((n / 4096 % 16 * 16 + n / 256 % 16) * 16 + n / 16 % 16) * 16 + n % 16 = n := by
    omega
  rw [hvalue] at hspells
  exact ⟨_, hspells⟩

theorem Spells.exists_units (h : Spells text literal) {units : List Nat}
    (hunits : ∀ n ∈ units, n < 0x10000) :
    ∃ escaped, Spells escaped (units.map .unit ++ literal) := by
  induction units with
  | nil => exact ⟨text, h⟩
  | cons n units ih =>
    obtain ⟨escaped, hspells⟩ := ih fun m hm ↦ hunits m (List.mem_cons_of_mem n hm)
    exact hspells.exists_unit (hunits n List.mem_cons_self)

theorem Spells.unit_lt (h : Spells text literal) {n : Nat} (hn : Piece.unit n ∈ literal) :
    n < 0x10000 := by
  induction h with
  | nil => simp at hn
  | plain _ _ _ _ ih => exact ih (by simpa using hn)
  | short _ _ ih => exact ih (by simpa using hn)
  | unit first second third fourth _ ih =>
    rcases List.mem_cons.mp hn with heq | hn
    · have hvalue := Piece.unit.inj heq
      have := first.1
      have := second.1
      have := third.1
      have := fourth.1
      omega
    · exact ih hn

theorem denotes_plain (text : List Char) : Denotes (text.map .char) text := by
  induction text with
  | nil => exact .nil
  | cons c text ih => exact .char c ih

theorem toNat_lt (c : Char) : c.toNat < 0x110000 := by
  rcases c.valid with hvalid | hvalid
  · exact Nat.lt_trans hvalid (by decide)
  · exact hvalid.2

theorem lt_of_mem_utf16 {c : Char} {n : Nat} (hn : n ∈ utf16 c) : n < 0x10000 := by
  unfold utf16 at hn
  split at hn
  · next hsmall =>
    obtain rfl := List.mem_singleton.mp hn
    exact hsmall
  · have hvalid := toNat_lt c
    simp only [List.mem_cons, List.not_mem_nil, or_false] at hn
    omega

/-- Every text is denoted by a literal that can be spelled, whatever its characters are: with all of
them escaped. -/
theorem exists_spells_denotes (text : List Char) :
    ∃ spelled literal, Spells spelled literal ∧ Denotes literal text := by
  induction text with
  | nil => exact ⟨[], [], .nil, .nil⟩
  | cons c text ih =>
    obtain ⟨spelled, literal, hspells, hdenotes⟩ := ih
    obtain ⟨escaped, hescaped⟩ := hspells.exists_units fun _ ↦ lt_of_mem_utf16 (c := c)
    exact ⟨escaped, _, hescaped, hdenotes.escaped c⟩

theorem isLead_eq_false_of_isValidChar {n : Nat} (h : n.isValidChar) :
    Piece.isLead n = false ∧ Piece.isTrail n = false := by
  simp only [Piece.isLead, Piece.isTrail, Bool.and_eq_false_iff, decide_eq_false_iff_not]
  rcases h with h | h <;> omega

/-- A unit that is no surrogate is a character by itself, whatever follows. -/
theorem chars?_unit_cons {n : Nat} (hlead : Piece.isLead n = false)
    (htrail : Piece.isTrail n = false) (rest : StringLiteral) :
    chars? (.unit n :: rest) = (chars? rest).map (Char.ofNat n :: ·) := by
  cases rest with
  | nil => simp [chars?, hlead, htrail]
  | cons piece rest => cases piece <;> simp [chars?, hlead, htrail]

theorem isLead_utf16 {c : Char} (h : 0x10000 ≤ c.toNat) :
    Piece.isLead (0xD800 + (c.toNat - 0x10000) / 0x400) = true := by
  have hvalid := toNat_lt c
  simp only [Piece.isLead, Bool.and_eq_true, decide_eq_true_eq]
  omega

theorem isTrail_utf16 (c : Char) :
    Piece.isTrail (0xDC00 + (c.toNat - 0x10000) % 0x400) = true := by
  simp only [Piece.isTrail, Bool.and_eq_true, decide_eq_true_eq]
  omega

theorem isTrail_eq_false_of_isLead {n : Nat} (h : Piece.isLead n = true) :
    Piece.isTrail n = false := by
  simp only [Piece.isLead, Piece.isTrail, Bool.and_eq_true, Bool.and_eq_false_iff,
    decide_eq_true_eq, decide_eq_false_iff_not] at h ⊢
  omega

theorem joinPair_utf16 {c : Char} (h : 0x10000 ≤ c.toNat) :
    Piece.joinPair (0xD800 + (c.toNat - 0x10000) / 0x400)
      (0xDC00 + (c.toNat - 0x10000) % 0x400) = c := by
  have hcode : 0x10000 + (0xD800 + (c.toNat - 0x10000) / 0x400 - 0xD800) * 0x400 +
      (0xDC00 + (c.toNat - 0x10000) % 0x400 - 0xDC00) = c.toNat := by omega
  rw [Piece.joinPair, hcode, Char.ofNat_toNat]

/-- The units of a character are read as the character. -/
theorem chars?_utf16_append (c : Char) (rest : StringLiteral) :
    chars? ((utf16 c).map .unit ++ rest) = (chars? rest).map (c :: ·) := by
  unfold utf16
  split
  · have hvalid : c.toNat.isValidChar := c.valid
    obtain ⟨hlead, htrail⟩ := isLead_eq_false_of_isValidChar hvalid
    have hread := chars?_unit_cons hlead htrail rest
    rwa [Char.ofNat_toNat] at hread
  · next hlarge =>
    have hcode : 0x10000 ≤ c.toNat := Nat.not_lt.mp hlarge
    have hlead := isLead_utf16 hcode
    simp [chars?, hlead, isTrail_eq_false_of_isLead hlead, isTrail_utf16, joinPair_utf16 hcode]

theorem Denotes.chars?_eq (h : Denotes literal text) : chars? literal = some text := by
  induction h with
  | nil => rfl
  | char c _ ih => rw [chars?, ih, Option.map_some]
  | escaped c _ ih => rw [chars?_utf16_append, ih, Option.map_some]

theorem toNat_ofNat_of_isValidChar {n : Nat} (h : n.isValidChar) : (Char.ofNat n).toNat = n := by
  rw [Char.ofNat, dif_pos h]
  rfl

/-- A unit that is no surrogate is the only unit of its character. -/
theorem utf16_ofNat {n : Nat} (hlt : n < 0x10000) (hlead : Piece.isLead n = false)
    (htrail : Piece.isTrail n = false) : utf16 (Char.ofNat n) = [n] := by
  have hvalid : n.isValidChar := by
    simp only [Piece.isLead, Piece.isTrail, Bool.and_eq_false_iff, decide_eq_false_iff_not]
      at hlead htrail
    unfold Nat.isValidChar
    omega
  rw [utf16, toNat_ofNat_of_isValidChar hvalid, if_pos hlt]

theorem utf16_joinPair {lead trail : Nat} (hlead : Piece.isLead lead = true)
    (htrail : Piece.isTrail trail = true) : utf16 (Piece.joinPair lead trail) = [lead, trail] := by
  simp only [Piece.isLead, Piece.isTrail, Bool.and_eq_true, decide_eq_true_eq] at hlead htrail
  have hvalid : (0x10000 + (lead - 0xD800) * 0x400 + (trail - 0xDC00)).isValidChar := by
    unfold Nat.isValidChar
    omega
  have hcode : (Piece.joinPair lead trail).toNat =
      0x10000 + (lead - 0xD800) * 0x400 + (trail - 0xDC00) := toNat_ofNat_of_isValidChar hvalid
  rw [utf16, hcode, if_neg (by omega)]
  have hfirst : 0xD800 + (0x10000 + (lead - 0xD800) * 0x400 + (trail - 0xDC00) - 0x10000) / 0x400 =
      lead := by omega
  have hsecond : 0xDC00 +
      (0x10000 + (lead - 0xD800) * 0x400 + (trail - 0xDC00) - 0x10000) % 0x400 = trail := by omega
  rw [hfirst, hsecond]

theorem Denotes.unit {n : Nat} (hlt : n < 0x10000) (hlead : Piece.isLead n = false)
    (htrail : Piece.isTrail n = false) (h : Denotes literal text) :
    Denotes (.unit n :: literal) (Char.ofNat n :: text) := by
  have hescaped := h.escaped (Char.ofNat n)
  rwa [utf16_ofNat hlt hlead htrail] at hescaped

theorem Denotes.pair {lead trail : Nat} (hlead : Piece.isLead lead = true)
    (htrail : Piece.isTrail trail = true) (h : Denotes literal text) :
    Denotes (.unit lead :: .unit trail :: literal) (Piece.joinPair lead trail :: text) := by
  have hescaped := h.escaped (Piece.joinPair lead trail)
  rwa [utf16_joinPair hlead htrail] at hescaped

/-- The reader finds nothing but what the literal denotes. -/
theorem denotes_of_chars? (hunits : ∀ n, Piece.unit n ∈ literal → n < 0x10000)
    (h : chars? literal = some text) : Denotes literal text := by
  fun_induction chars? literal generalizing text with
  | case1 =>
    obtain rfl := Option.some.inj h
    exact .nil
  | case2 c rest ih =>
    obtain ⟨tail, htail, rfl⟩ := Option.map_eq_some_iff.mp h
    exact .char c (ih (fun n hn ↦ hunits n (by simp [hn])) htail)
  | case4 n hnot =>
    obtain rfl := Option.some.inj h
    rw [Bool.or_eq_true, not_or, Bool.not_eq_true, Bool.not_eq_true] at hnot
    exact .unit (hunits n (by simp)) hnot.1 hnot.2 .nil
  | case6 n m rest _ hlead htrail ih =>
    obtain ⟨tail, htail, rfl⟩ := Option.map_eq_some_iff.mp h
    exact .pair hlead htrail (ih (fun k hk ↦ hunits k (by simp [hk])) htail)
  | case8 n m rest htrail hlead ih =>
    obtain ⟨tail, htail, rfl⟩ := Option.map_eq_some_iff.mp h
    rw [Bool.not_eq_true] at htrail hlead
    exact .unit (hunits n (by simp)) hlead htrail
      (ih (fun k hk ↦ hunits k (List.mem_cons_of_mem _ hk)) htail)
  | case10 n c rest hnot ih =>
    obtain ⟨tail, htail, rfl⟩ := Option.map_eq_some_iff.mp h
    rw [Bool.or_eq_true, not_or, Bool.not_eq_true, Bool.not_eq_true] at hnot
    exact .unit (hunits n (by simp)) hnot.1 hnot.2
      (ih (fun k hk ↦ hunits k (List.mem_cons_of_mem _ hk)) htail)
  | _ => simp at h

theorem Denotes.text?_eq {s : String} (h : Denotes literal s.toList) : literal.text? = some s := by
  rw [text?, h.chars?_eq, Option.map_some, String.ofList_toList]

/-- The text of a literal that has been spelled is what the literal denotes. -/
theorem Spells.text?_eq_some_iff {raw : List Char} (h : Spells raw literal) {s : String} :
    literal.text? = some s ↔ Denotes literal s.toList := by
  refine ⟨fun htext ↦ ?_, Denotes.text?_eq⟩
  obtain ⟨text, hchars, rfl⟩ := Option.map_eq_some_iff.mp htext
  rw [String.toList_ofList]
  exact denotes_of_chars? (fun _ ↦ h.unit_lt) hchars

end ExactCalc.Json.StringLiteral
