import ExactCalc.Proofs.Infix.Derivation

/-!
# The grammar is unambiguous

Two derivations of one level with the same text are the same derivation. Parentheses are balanced in
every derivation, and read from the right no more of them are opened than closed. Behind an operator
that binds looser than the level even more are closed than opened: the operator stands inside
parentheses. So the place where a derivation splits is the last operator of its level outside
parentheses, and there is only one.
-/

namespace ExactCalc.Infix

/-- Two ways to split a list at an element either agree, or one of them splits a part of the other. -/
theorem append_cons_eq_append_cons {α : Type} {front front' tail tail' : List α} {a b : α}
    (h : front ++ a :: tail = front' ++ b :: tail') :
    (front = front' ∧ a = b ∧ tail = tail') ∨
      (∃ mid, front' = front ++ a :: mid ∧ tail = mid ++ b :: tail') ∨
      (∃ mid, front = front' ++ b :: mid ∧ tail' = mid ++ a :: tail) := by
  rcases List.append_eq_append_iff.mp h with ⟨mid, hfront, htail⟩ | ⟨mid, hfront, htail⟩
  · cases mid with
    | nil => simp_all
    | cons c mid =>
      obtain ⟨rfl, hmid⟩ := List.cons.inj htail
      exact Or.inr (Or.inl ⟨mid, hfront, hmid⟩)
  · cases mid with
    | nil => simp_all
    | cons c mid =>
      obtain ⟨rfl, hmid⟩ := List.cons.inj htail
      exact Or.inr (Or.inr ⟨mid, hfront, hmid⟩)

/-- Read from the right, no more parentheses are opened than closed. -/
def ClosesFirst (lexemes : List Lexeme) : Prop :=
  ∀ tail, tail <:+ lexemes → tail.count .opening ≤ tail.count .closing

theorem ClosesFirst.append {left right : List Lexeme} (hleft : ClosesFirst left)
    (hright : ClosesFirst right) : ClosesFirst (left ++ right) := by
  intro tail htail
  obtain ⟨front, h⟩ := htail
  rcases List.append_eq_append_iff.mp h with ⟨mid, rfl, rfl⟩ | ⟨mid, rfl, rfl⟩
  · have hmid := hleft mid (List.suffix_append front mid)
    have hall := hright right List.suffix_rfl
    rw [List.count_append, List.count_append]
    omega
  · exact hright tail (List.suffix_append mid tail)

theorem ClosesFirst.operator (op : Operator) {lexemes : List Lexeme} (h : ClosesFirst lexemes) :
    ClosesFirst (.operator op :: lexemes) := by
  intro tail htail
  rcases List.suffix_cons_iff.mp htail with rfl | htail
  · have hall := h lexemes List.suffix_rfl
    simpa using hall
  · exact h tail htail

namespace Derivation

variable {level : Level}

theorem count_opening_eq_count_closing (d : Derivation level) :
    d.lexemes.count .opening = d.lexemes.count .closing := by
  induction d with
  | number digits hne hdigits => simp [lexemes]
  | group inner ih => simp [lexemes, ih]
  | ofFactor d ih => exact ih
  | ofProduct d ih => exact ih
  | product op hop left right ihl ihr => simp [lexemes, ihl, ihr]
  | sum op hop left right ihl ihr => simp [lexemes, ihl, ihr]

theorem closesFirst_lexemes (d : Derivation level) : ClosesFirst d.lexemes := by
  induction d with
  | number digits hne hdigits =>
    intro tail h
    rcases List.suffix_cons_iff.mp h with rfl | hnil
    · simp
    · simp [List.suffix_nil.mp hnil]
  | group inner ih =>
    have hinner := inner.count_opening_eq_count_closing
    intro tail h
    rcases List.suffix_cons_iff.mp h with rfl | htail
    · simp [hinner]
    · rcases List.suffix_concat_iff.mp htail with rfl | ⟨front, rfl, hfront⟩
      · simp
      · have hle := ih front hfront
        simp
        omega
  | ofFactor d ih => exact ih
  | ofProduct d ih => exact ih
  | product op hop left right ihl ihr => exact ihl.append (ihr.operator op)
  | sum op hop left right ihl ihr => exact ihl.append (ihr.operator op)

/-- An operator that binds looser than those joining two parts stands in one of them. -/
theorem count_opening_lt_of_binary {left right front tail : List Lexeme} {op op' : Operator}
    (hsplit : left ++ .operator op' :: right = front ++ .operator op :: tail) (hne : op ≠ op')
    (hleft : ∀ mid, left = front ++ .operator op :: mid → mid.count .opening < mid.count .closing)
    (hright : ∀ mid, right = mid ++ .operator op :: tail → tail.count .opening < tail.count .closing)
    (hbalanced : right.count .opening = right.count .closing) :
    tail.count .opening < tail.count .closing := by
  rcases append_cons_eq_append_cons hsplit with ⟨-, hop, -⟩ | ⟨mid, -, hmid⟩ | ⟨mid, hmid, rfl⟩
  · exact absurd (Lexeme.operator.inj hop).symm hne
  · exact hright mid hmid
  · have hlt := hleft mid hmid
    simp [hbalanced]
    omega

/-- An operator that binds looser than the level stands inside parentheses. -/
theorem count_opening_lt_of_looser (d : Derivation level) {op : Operator} {front tail : List Lexeme}
    (hsplit : d.lexemes = front ++ .operator op :: tail)
    (hlooser : op.precedence < level.precedence) :
    tail.count .opening < tail.count .closing := by
  induction d generalizing front tail with
  | number digits hne hdigits =>
    have hmem : Lexeme.operator op ∈ (number digits hne hdigits).lexemes := by simp [hsplit]
    simp [lexemes] at hmem
  | group inner ih =>
    have htail : Lexeme.operator op :: tail <:+ inner.lexemes ++ [.closing] := by
      have hsuffix : Lexeme.operator op :: tail <:+ inner.group.lexemes := ⟨front, hsplit.symm⟩
      rcases List.suffix_cons_iff.mp hsuffix with h | h
      · simp at h
      · exact h
    rcases List.suffix_concat_iff.mp htail with h | ⟨mid, hmid, hsuffix⟩
    · simp at h
    · cases mid with
      | nil => simp at hmid
      | cons a mid =>
        obtain ⟨rfl, rfl⟩ := List.cons.inj hmid
        have hle := inner.closesFirst_lexemes mid ((List.suffix_cons _ mid).trans hsuffix)
        simp
        omega
  | ofFactor d ih => exact ih hsplit (Nat.lt_succ_of_lt hlooser)
  | ofProduct d ih => exact ih hsplit (Nat.lt_succ_of_lt hlooser)
  | product op' hop left right ihl ihr =>
    have hne : op ≠ op' := by
      intro heq
      subst heq
      exact absurd hlooser (by simp [hop, Level.precedence])
    exact count_opening_lt_of_binary hsplit hne (fun mid hmid ↦ ihl hmid hlooser)
      (fun mid hmid ↦ ihr hmid (Nat.lt_succ_of_lt hlooser)) right.count_opening_eq_count_closing
  | sum op' hop left right ihl ihr =>
    have hne : op ≠ op' := by
      intro heq
      subst heq
      exact absurd hlooser (by simp [hop, Level.precedence])
    exact count_opening_lt_of_binary hsplit hne (fun mid hmid ↦ ihl hmid hlooser)
      (fun mid hmid ↦ ihr hmid (Nat.lt_succ_of_lt hlooser)) right.count_opening_eq_count_closing

/-- A derivation is not an operator of a looser level between two parts, the second a derivation. -/
theorem lexemes_ne_append_operator {level' : Level} (d : Derivation level)
    (right : Derivation level') {front : List Lexeme} {op : Operator}
    (hlooser : op.precedence < level.precedence) :
    d.lexemes ≠ front ++ .operator op :: right.lexemes := by
  intro h
  have hlt := d.count_opening_lt_of_looser h hlooser
  exact absurd right.count_opening_eq_count_closing (Nat.ne_of_lt hlt)

/-- The split at an operator is determined when it binds looser than the level of the right part. -/
theorem append_operator_inj {left left' : List Lexeme} {right right' : Derivation level}
    {op op' : Operator} (hop : op.precedence < level.precedence)
    (hop' : op'.precedence < level.precedence)
    (h : left ++ .operator op :: right.lexemes = left' ++ .operator op' :: right'.lexemes) :
    left = left' ∧ op = op' ∧ right.lexemes = right'.lexemes := by
  rcases append_cons_eq_append_cons h with ⟨hleft, heq, hright⟩ | ⟨mid, -, hmid⟩ | ⟨mid, -, hmid⟩
  · exact ⟨hleft, Lexeme.operator.inj heq, hright⟩
  · exact absurd hmid (right.lexemes_ne_append_operator right' hop')
  · exact absurd hmid (right'.lexemes_ne_append_operator right hop)

theorem lexemes_injective {d d' : Derivation level} (h : d.lexemes = d'.lexemes) : d = d' := by
  induction d with
  | number digits hne hdigits =>
    cases d' with
    | number digits' hne' hdigits' =>
      obtain rfl : digits = digits' := by simpa [lexemes] using h
      rfl
    | group inner => simp [lexemes] at h
  | group inner ih =>
    cases d' with
    | number digits' hne' hdigits' => simp [lexemes] at h
    | group inner' =>
      have hinner : inner.lexemes = inner'.lexemes := by simpa [lexemes] using h
      rw [ih hinner]
  | ofFactor d ih =>
    cases d' with
    | ofFactor d' => rw [ih h]
    | product op hop left right =>
      exact absurd h (d.lexemes_ne_append_operator right (by simp [hop, Level.precedence]))
  | ofProduct d ih =>
    cases d' with
    | ofProduct d' => rw [ih h]
    | sum op hop left right =>
      exact absurd h (d.lexemes_ne_append_operator right (by simp [hop, Level.precedence]))
  | product op hop left right ihl ihr =>
    cases d' with
    | ofFactor d' =>
      exact absurd h.symm (d'.lexemes_ne_append_operator right (by simp [hop, Level.precedence]))
    | product op' hop' left' right' =>
      obtain ⟨hleft, rfl, hright⟩ := append_operator_inj (by simp [hop, Level.precedence])
        (by simp [hop', Level.precedence]) h
      rw [ihl hleft, ihr hright]
  | sum op hop left right ihl ihr =>
    cases d' with
    | ofProduct d' =>
      exact absurd h.symm (d'.lexemes_ne_append_operator right (by simp [hop, Level.precedence]))
    | sum op' hop' left' right' =>
      obtain ⟨hleft, rfl, hright⟩ := append_operator_inj (by simp [hop, Level.precedence])
        (by simp [hop', Level.precedence]) h
      rw [ihl hleft, ihr hright]

/-- The grammar is unambiguous. -/
theorem chars_injective {d d' : Derivation level} (h : d.chars = d'.chars) : d = d' := by
  apply lexemes_injective
  rw [← scan_chars, h, scan_chars]

end Derivation

/-- A text derives at most one tree. -/
theorem Derives.tree_eq {level : Level} {text : List Char} {tree tree' : Expr}
    (h : Derives level text tree) (h' : Derives level text tree') : tree = tree' := by
  obtain ⟨d, hchars, rfl⟩ := Derivation.derives_iff.mp h
  obtain ⟨d', hchars', rfl⟩ := Derivation.derives_iff.mp h'
  rw [Derivation.chars_injective (hchars.trans hchars'.symm)]

end ExactCalc.Infix
