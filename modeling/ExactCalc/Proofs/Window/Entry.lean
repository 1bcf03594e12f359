import ExactCalc.Proofs.Text.Run
import ExactCalc.Window.Entry
import Mathlib.Data.List.Chain

/-!
# Symbols and spaces of the entry

The spaces of an entry are layout. Inserting a key adds one symbol behind those that are there, and
deleting takes the last one away, whatever the spaces are. In an entry made with the keys the spaces
stand one by one, each behind a symbol; an operator puts one on either side of itself only after it
has taken the spaces at the end away, and deleting leaves a first part of the entry.
-/

namespace ExactCalc

theorem Operator.symbol_ne_space (op : Operator) : op.symbol ≠ ' ' := by
  cases op <;> decide

namespace Window

theorem Key.symbol_ne_space (key : Key) : key.symbol ≠ ' ' := by
  cases key with
  | digit d => decide +revert
  | opening => decide
  | closing => decide
  | operator op => exact op.symbol_ne_space

namespace Entry

/-- The text without its spaces. -/
def symbols (entry : List Char) : List Char :=
  entry.filter (· ≠ ' ')

@[simp]
theorem symbols_append (front tail : List Char) :
    symbols (front ++ tail) = symbols front ++ symbols tail :=
  List.filter_append ..

theorem symbols_singleton {c : Char} (hc : c ≠ ' ') : symbols [c] = [c] := by
  simp [symbols, hc]

@[simp]
theorem symbols_replicate_space (n : Nat) : symbols (List.replicate n ' ') = [] := by
  simp [symbols]

theorem exists_dropTrailingSpaces_append (entry : List Char) :
    ∃ n, entry = dropTrailingSpaces entry ++ List.replicate n ' ' :=
  Text.exists_dropWhile_reverse_append ' ' entry

theorem dropTrailingSpaces_isPrefix (entry : List Char) : dropTrailingSpaces entry <+: entry := by
  obtain ⟨n, h⟩ := exists_dropTrailingSpaces_append entry
  exact ⟨_, h.symm⟩

@[simp]
theorem symbols_dropTrailingSpaces (entry : List Char) :
    symbols (dropTrailingSpaces entry) = symbols entry := by
  obtain ⟨n, h⟩ := exists_dropTrailingSpaces_append entry
  calc
    symbols (dropTrailingSpaces entry)
        = symbols (dropTrailingSpaces entry ++ List.replicate n ' ') := by
      rw [symbols_append, symbols_replicate_space, List.append_nil]
    _ = symbols entry := by
      rw [← h]

theorem getLast?_dropTrailingSpaces (entry : List Char) :
    ∀ c ∈ (dropTrailingSpaces entry).getLast?, c ≠ ' ' := by
  intro c hc
  have hfirst := List.head?_dropWhile_not (· = ' ') entry.reverse
  rw [dropTrailingSpaces, List.getLast?_reverse] at hc
  rw [Option.mem_def.mp hc] at hfirst
  simpa using hfirst

/-- Without its spaces at the end, the entry is empty or ends in its last symbol. -/
theorem dropTrailingSpaces_eq_nil_or_concat (entry : List Char) :
    dropTrailingSpaces entry = [] ∨
      ∃ front c, dropTrailingSpaces entry = front ++ [c] ∧ c ≠ ' ' := by
  rcases List.eq_nil_or_concat (dropTrailingSpaces entry) with hnil | ⟨front, c, h⟩
  · exact Or.inl hnil
  · rw [List.concat_eq_append] at h
    refine Or.inr ⟨front, c, h, getLast?_dropTrailingSpaces entry c ?_⟩
    rw [h]
    simp

theorem insert_digit (entry : List Char) (d : Fin 10) :
    insert entry (.digit d) = entry ++ [(Key.digit d).symbol] := rfl

theorem insert_opening (entry : List Char) :
    insert entry .opening = entry ++ [Key.opening.symbol] := rfl

theorem insert_closing (entry : List Char) :
    insert entry .closing = dropTrailingSpaces entry ++ [Key.closing.symbol] := rfl

theorem symbols_insertOperator (entry : List Char) (op : Operator) :
    symbols (insertOperator entry op) = symbols entry ++ [op.symbol] := by
  have hop : symbols [op.symbol, ' '] = [op.symbol] := by
    simp [symbols, op.symbol_ne_space]
  have hspace : symbols [' '] = [] := rfl
  rw [insertOperator, symbols_append, hop]
  split_ifs
  · rw [symbols_dropTrailingSpaces]
  · rw [symbols_append, symbols_dropTrailingSpaces, hspace, List.append_nil]

theorem symbols_insert (entry : List Char) (key : Key) :
    symbols (insert entry key) = symbols entry ++ [key.symbol] := by
  cases key with
  | digit d => rw [insert_digit, symbols_append, symbols_singleton (Key.symbol_ne_space _)]
  | opening => rw [insert_opening, symbols_append, symbols_singleton (Key.symbol_ne_space _)]
  | closing =>
    rw [insert_closing, symbols_append, symbols_dropTrailingSpaces,
      symbols_singleton (Key.symbol_ne_space _)]
  | operator op => exact symbols_insertOperator entry op

/-- Deleting takes away the last symbol, with the spaces around it. -/
theorem symbols_deleteLast (entry : List Char) :
    symbols (deleteLast entry) = (symbols entry).dropLast := by
  rw [deleteLast, symbols_dropTrailingSpaces, ← symbols_dropTrailingSpaces entry]
  rcases dropTrailingSpaces_eq_nil_or_concat entry with hnil | ⟨front, c, h, hc⟩
  · rw [hnil]
    rfl
  · rw [h, List.dropLast_concat, symbols_append, symbols_singleton hc, List.dropLast_concat]

theorem deleteLast_isPrefix (entry : List Char) : deleteLast entry <+: entry := by
  rw [deleteLast]
  have hlast : (dropTrailingSpaces entry).dropLast <+: dropTrailingSpaces entry :=
    List.dropLast_prefix _
  apply (dropTrailingSpaces_isPrefix _).trans
  exact hlast.trans (dropTrailingSpaces_isPrefix entry)

/-- Read behind a space, no two spaces stand side by side: there is none at the beginning either. -/
def IsTidy (entry : List Char) : Prop :=
  List.IsChain (fun c d ↦ c = ' ' → d ≠ ' ') (' ' :: entry)

theorem isTidy_nil : IsTidy [] :=
  List.IsChain.singleton _

namespace IsTidy

variable {entry : List Char}

theorem of_isPrefix {front : List Char} (h : IsTidy entry) (hfront : front <+: entry) :
    IsTidy front :=
  List.IsChain.prefix h (List.prefix_cons_inj ' ' |>.mpr hfront)

theorem head?_ne (h : IsTidy entry) : entry.head? ≠ some ' ' := by
  cases entry with
  | nil => simp
  | cons c rest =>
    have hc : c ≠ ' ' := (List.isChain_cons_cons.mp h).1 rfl
    simpa using hc

theorem not_isInfix (h : IsTidy entry) : ¬ [' ', ' '] <:+: entry := by
  intro hadjacent
  have hspaces : List.IsChain (fun c d ↦ c = ' ' → d ≠ ' ') [' ', ' '] :=
    List.IsChain.infix h (hadjacent.trans (List.suffix_cons ' ' entry).isInfix)
  exact (List.isChain_cons_cons.mp hspaces).1 rfl rfl

theorem append_symbol (h : IsTidy entry) {c : Char} (hc : c ≠ ' ') : IsTidy (entry ++ [c]) := by
  rw [IsTidy, ← List.cons_append, List.isChain_append]
  refine ⟨h, List.IsChain.singleton _, fun d _ e he _ ↦ ?_⟩
  obtain rfl : c = e := by simpa using he
  exact hc

/-- A space may follow a symbol. -/
theorem append_space (h : IsTidy entry) (hne : entry ≠ []) (hlast : ∀ c ∈ entry.getLast?, c ≠ ' ') :
    IsTidy (entry ++ [' ']) := by
  rw [IsTidy, ← List.cons_append, List.isChain_append]
  refine ⟨h, List.IsChain.singleton _, fun c hc _ _ hspace ↦ ?_⟩
  rw [List.getLast?_cons_of_ne_nil hne] at hc
  exact absurd hspace (hlast c hc)

theorem dropTrailingSpaces (h : IsTidy entry) : IsTidy (dropTrailingSpaces entry) :=
  h.of_isPrefix (dropTrailingSpaces_isPrefix entry)

theorem append_operator (h : IsTidy entry) (op : Operator) :
    IsTidy (entry ++ [op.symbol, ' ']) := by
  rw [List.append_cons]
  apply (h.append_symbol op.symbol_ne_space).append_space
  · simp
  · simpa using op.symbol_ne_space

theorem insertOperator (h : IsTidy entry) (op : Operator) :
    IsTidy (insertOperator entry op) := by
  rw [Entry.insertOperator]
  apply append_operator
  split_ifs with hempty
  · exact h.dropTrailingSpaces
  · apply h.dropTrailingSpaces.append_space
    · simpa using hempty
    · exact getLast?_dropTrailingSpaces entry

theorem insert (h : IsTidy entry) (key : Key) : IsTidy (insert entry key) := by
  cases key with
  | digit d => exact h.append_symbol (Key.digit d).symbol_ne_space
  | opening => exact h.append_symbol Key.opening.symbol_ne_space
  | closing => exact h.dropTrailingSpaces.append_symbol Key.closing.symbol_ne_space
  | operator op => exact h.insertOperator op

theorem deleteLast (h : IsTidy entry) : IsTidy (deleteLast entry) :=
  h.of_isPrefix (deleteLast_isPrefix entry)

end IsTidy

end Entry

end Window

end ExactCalc
