import ExactCalc.Proofs.Json.NumberLiteral
import ExactCalc.Proofs.Json.StringLiteral
import Mathlib.Data.List.Chain

/-!
# Scanning tokens

A text is cut into the tokens that it spells. Only two numbers side by side would run together, and
no value is written with them, so the tokens are those of the text whatever follows; what follows is
then cut by itself.
-/

namespace ExactCalc.Json.Token

variable {text rest : List Char} {token : Token} {tokens : List Token}

def IsNumber (token : Token) : Prop := ∃ n, token = .number n

/-- No number stands next to a number. -/
def Separated (tokens : List Token) : Prop :=
  tokens.IsChain fun a b ↦ ¬ (a.IsNumber ∧ b.IsNumber)

/-- The token is read from its text, which the rest does not carry on if it is a number. No other
token begins with a sign or a digit. -/
theorem Spells.read?_append (h : Spells text token)
    (hrest : token.IsNumber → NumberLiteral.EndsNumber rest) :
    read? (text ++ rest) = some (token, rest) := by
  cases h with
  | number hn =>
    have hread := hn.read?_append (hrest ⟨_, rfl⟩)
    obtain ⟨c, tail, rfl, hc⟩ := hn.exists_cons
    rw [List.cons_append] at hread ⊢
    unfold read?
    split
    case h_11 => rw [hread, Option.map_some]
    all_goals
      rename_i heq
      obtain ⟨rfl, -⟩ := List.cons.inj heq
      exact absurd hc (by decide)
  | string hs =>
    have hread := hs.read?_eq rest
    simp [read?, hread]
  | _ => rfl

/-- The token begins an array or an object. -/
def Opens (token : Token) : Prop := token = .openBracket ∨ token = .openBrace

/-- A token begins with no blank, and with an opening mark only if it is one. -/
theorem Spells.exists_cons (h : Spells text token) :
    ∃ c tail, text = c :: tail ∧ isBlank c = false ∧ (c = '[' ∨ c = '\x7b' → token.Opens) := by
  cases h with
  | number hn =>
    obtain ⟨c, tail, rfl, hc⟩ := hn.exists_cons
    refine ⟨c, tail, rfl, ?_, ?_⟩
    · by_contra hblank
      simp only [isBlank, Bool.not_eq_false, Bool.or_eq_true, decide_eq_true_eq] at hblank
      rcases hblank with ((rfl | rfl) | rfl) | rfl <;> exact absurd hc (by decide)
    · rintro (rfl | rfl) <;> exact absurd hc (by decide)
  | _ => exact ⟨_, _, rfl, by decide, by simp [Opens]⟩

/-- A text that does not begin with an opening mark does not begin with its token. -/
theorem not_opens_of_read? {c : Char} {tail after : List Char} (hc : ¬ (c = '[' ∨ c = '\x7b'))
    (h : read? (c :: tail) = some (token, after)) : ¬ token.Opens := by
  unfold read? at h
  split at h
  case h_1 heq => exact absurd (.inl (List.cons.inj heq).1) hc
  case h_3 heq => exact absurd (.inr (List.cons.inj heq).1) hc
  case h_10 | h_11 =>
    obtain ⟨_, _, heq⟩ := Option.map_eq_some_iff.mp h
    obtain ⟨rfl, -⟩ := Prod.mk.inj heq
    simp [Opens]
  all_goals
    obtain ⟨rfl, -⟩ := Prod.mk.inj (Option.some.inj h)
    simp [Opens]

theorem scan?_append_of_isBlank {blanks : List Char} (h : ∀ c ∈ blanks, isBlank c = true) :
    scan? (blanks ++ rest) = scan? rest := by
  induction blanks with
  | nil => rfl
  | cons c blanks ih =>
    rw [List.cons_append, scan?, if_pos (h c (by simp)), ih fun d hd ↦ h d (by simp [hd])]

theorem Spells.scan?_append (h : Spells text token)
    (hrest : token.IsNumber → NumberLiteral.EndsNumber rest) :
    scan? (text ++ rest) = (scan? rest).map (token :: ·) := by
  have hread := h.read?_append hrest
  obtain ⟨c, tail, rfl, hc, -⟩ := h.exists_cons
  rw [List.cons_append] at hread ⊢
  rw [scan?, if_neg (by simp [hc])]
  split
  · next hnone => rw [hread] at hnone; contradiction
  · next hsome =>
    rw [hread] at hsome
    obtain ⟨rfl, rfl⟩ := Prod.mk.inj (Option.some.inj hsome)
    rfl

theorem Spells.endsNumber_append (h : Spells text token) (hnumber : ¬ token.IsNumber) :
    NumberLiteral.EndsNumber (text ++ rest) := by
  cases h with
  | number _ => exact absurd ⟨_, rfl⟩ hnumber
  | _ => simp [NumberLiteral.EndsNumber]

theorem endsNumber_append_of_isBlank {blanks : List Char} (h : ∀ c ∈ blanks, isBlank c = true)
    (hrest : NumberLiteral.EndsNumber rest) : NumberLiteral.EndsNumber (blanks ++ rest) := by
  cases blanks with
  | nil => exact hrest
  | cons c blanks =>
    have hc := h c (by simp)
    simp only [isBlank, Bool.or_eq_true, decide_eq_true_eq] at hc
    rcases hc with ((rfl | rfl) | rfl) | rfl <;> simp [NumberLiteral.EndsNumber]

/-- A number ends before any other token, and before the end of the tokens if the rest ends it. -/
theorem Spaced.endsNumber_append (h : Spaced text tokens)
    (hhead : ∀ token ∈ tokens.head?, ¬ token.IsNumber)
    (hrest : tokens = [] → NumberLiteral.EndsNumber rest) :
    NumberLiteral.EndsNumber (text ++ rest) := by
  cases h with
  | nil isBlank => exact endsNumber_append_of_isBlank isBlank (hrest rfl)
  | cons isBlank spells _ =>
    rw [List.append_assoc, List.append_assoc]
    exact endsNumber_append_of_isBlank isBlank (spells.endsNumber_append (hhead _ rfl))

/-- The tokens are those of the text followed by those of the rest. A number is ended by the next
token, which is none, or by the rest if it is the last one. -/
theorem Spaced.scan?_append (h : Spaced text tokens) (hseparated : Separated tokens)
    (hrest : ∀ token ∈ tokens.getLast?, token.IsNumber → NumberLiteral.EndsNumber rest) :
    scan? (text ++ rest) = (scan? rest).map (tokens ++ ·) := by
  induction h with
  | nil isBlank =>
    rw [scan?_append_of_isBlank isBlank]
    simp
  | @cons blanks text tail token tokens isBlank spells spaced ih =>
    obtain ⟨hnext, hseparated⟩ := List.isChain_cons.mp hseparated
    have hends (hnumber : token.IsNumber) : NumberLiteral.EndsNumber (tail ++ rest) := by
      refine spaced.endsNumber_append (fun next hmem hnext' ↦ hnext next hmem ⟨hnumber, hnext'⟩) ?_
      rintro rfl
      exact hrest token rfl hnumber
    have hlast (last : Token) (hmem : last ∈ tokens.getLast?) :
        last ∈ (token :: tokens).getLast? := by
      rw [Option.mem_def] at hmem ⊢
      rw [List.getLast?_cons, hmem, Option.getD_some]
    have htail := ih hseparated fun last hmem ↦ hrest last (hlast last hmem)
    rw [List.append_assoc, List.append_assoc, scan?_append_of_isBlank isBlank,
      spells.scan?_append hends, htail, Option.map_map]
    rfl

/-- What is more than blanks has a token or is not cut at all. -/
theorem scan?_ne_nil (h : ∃ c ∈ rest, isBlank c = false) : scan? rest ≠ some [] := by
  fun_induction scan? rest with
  | case1 => simp at h
  | case2 c rest hblank ih =>
    obtain ⟨d, hd, hnot⟩ := h
    rcases List.mem_cons.mp hd with rfl | hd
    · rw [hblank] at hnot
      contradiction
    · exact ih ⟨d, hd, hnot⟩
  | case3 => simp
  | case4 => simp

theorem Spells.spaced (h : Spells text token) : Spaced text [token] := by
  simpa using Spaced.cons (List.forall_mem_nil _) h (.nil (List.forall_mem_nil _))

theorem Spaced.append {more : List Token} (h : Spaced text tokens) (hmore : Spaced rest more) :
    Spaced (text ++ rest) (tokens ++ more) := by
  induction h with
  | nil isBlank =>
    cases hmore with
    | nil isBlank' => exact .nil (List.forall_mem_append.mpr ⟨isBlank, isBlank'⟩)
    | cons isBlank' spells spaced =>
      rw [← List.append_assoc]
      exact .cons (List.forall_mem_append.mpr ⟨isBlank, isBlank'⟩) spells spaced
  | cons isBlank spells _ ih =>
    rw [List.append_assoc, List.append_assoc]
    exact .cons isBlank spells ih

/-- The string literals among the tokens are spelled somewhere. -/
theorem Spaced.exists_spells (h : Spaced text tokens) {s : StringLiteral}
    (hs : .string s ∈ tokens) : ∃ raw, StringLiteral.Spells raw s := by
  induction h with
  | nil => simp at hs
  | cons _ spells _ ih =>
    rcases List.mem_cons.mp hs with rfl | hs
    · cases spells with
      | string h => exact ⟨_, h⟩
    · exact ih hs

end ExactCalc.Json.Token
