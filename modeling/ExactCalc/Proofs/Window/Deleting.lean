import ExactCalc.Proofs.Window.Keypad
import Mathlib.Data.List.DropRight

/-!
# Deleting

Deleting takes the last symbol of an entry away, wherever the symbols and the spaces come from. The
spaces that a key puts around its symbol stand at the end of the entry once the symbol is gone, and
leave with it: deleting what a key has inserted gives back the entry without its spaces at the end.
-/

namespace ExactCalc.Window

namespace Entry

variable {front : List Char} {c : Char}

theorem dropTrailingSpaces_eq_rdropWhile (entry : List Char) :
    dropTrailingSpaces entry = entry.rdropWhile (· = ' ') := rfl

theorem dropTrailingSpaces_idem (entry : List Char) :
    dropTrailingSpaces (dropTrailingSpaces entry) = dropTrailingSpaces entry :=
  List.rdropWhile_idempotent _ entry

theorem dropTrailingSpaces_concat (hc : c ≠ ' ') :
    dropTrailingSpaces (front ++ [c]) = front ++ [c] :=
  List.rdropWhile_concat_neg _ front c (by simpa using hc)

theorem dropTrailingSpaces_append_space (front : List Char) :
    dropTrailingSpaces (front ++ [' ']) = dropTrailingSpaces front :=
  List.rdropWhile_concat_pos _ front ' ' (by simp)

theorem deleteLast_concat (hc : c ≠ ' ') :
    deleteLast (front ++ [c]) = dropTrailingSpaces front := by
  rw [deleteLast, dropTrailingSpaces_concat hc, List.dropLast_concat]

theorem deleteLast_append_space (front : List Char) :
    deleteLast (front ++ [' ']) = deleteLast front := by
  rw [deleteLast, dropTrailingSpaces_append_space, deleteLast]

theorem getLast?_deleteLast_ne (entry : List Char) : (deleteLast entry).getLast? ≠ some ' ' := by
  intro hlast
  rw [deleteLast] at hlast
  exact getLast?_dropTrailingSpaces _ ' ' hlast rfl

/-- An entry that does not end in a space is empty when it has no symbols. -/
theorem eq_nil_of_symbols_eq_nil {entry : List Char} (hlast : entry.getLast? ≠ some ' ')
    (h : symbols entry = []) : entry = [] := by
  rcases List.eq_nil_or_concat entry with hnil | ⟨front, c, rfl⟩
  · exact hnil
  · have hc : c ≠ ' ' := by simpa using hlast
    rw [List.concat_eq_append, symbols_append, symbols_singleton hc] at h
    simp at h

/-- Nothing is left when there was at most one symbol. -/
theorem deleteLast_eq_nil_iff (entry : List Char) :
    deleteLast entry = [] ↔ (symbols entry).length ≤ 1 := by
  have hlength : (symbols (deleteLast entry)).length = (symbols entry).length - 1 := by
    rw [symbols_deleteLast, List.length_dropLast]
  constructor
  · intro hnil
    have hsymbols : (symbols (deleteLast entry)).length = 0 := by
      rw [hnil]
      rfl
    omega
  · intro hone
    refine eq_nil_of_symbols_eq_nil (getLast?_deleteLast_ne entry) ?_
    exact List.length_eq_zero_iff.mp (by omega)

theorem deleteLast_append_operator (front : List Char) (op : Operator) :
    deleteLast (front ++ [op.symbol, ' ']) = dropTrailingSpaces front := by
  rw [List.append_cons, deleteLast_append_space, deleteLast_concat op.symbol_ne_space]

theorem deleteLast_insertOperator (entry : List Char) (op : Operator) :
    deleteLast (insertOperator entry op) = dropTrailingSpaces entry := by
  rw [insertOperator, deleteLast_append_operator]
  split_ifs
  · exact dropTrailingSpaces_idem entry
  · rw [dropTrailingSpaces_append_space, dropTrailingSpaces_idem]

/-- Keys lay their symbols out in three ways, and a deletion undoes each of them. -/
theorem deleteLast_insert (entry : List Char) (key : Key) :
    deleteLast (insert entry key) = dropTrailingSpaces entry := by
  cases key with
  | digit d => rw [insert_digit, deleteLast_concat (Key.symbol_ne_space _)]
  | opening => rw [insert_opening, deleteLast_concat (Key.symbol_ne_space _)]
  | closing =>
    rw [insert_closing, deleteLast_concat (Key.symbol_ne_space _), dropTrailingSpaces_idem]
  | operator op => exact deleteLast_insertOperator entry op

end Entry

namespace Session

variable (session : Session)

theorem toList_entry_click_key (k : Key) :
    (session.click (.key k)).value.window.entry.toList =
      Entry.insert session.window.entry.toList k := by
  rw [window_click, Button.press, Traced.value_silent, toList_entry_insert, entry_unfocus]

theorem toList_entry_click_deleteLast :
    (session.click .deleteLast).value.window.entry.toList =
      Entry.deleteLast session.window.entry.toList := by
  rw [window_click, Button.press, Traced.value_silent, toList_entry_deleteLast, entry_unfocus]

end Session

/-- A click on a key and one on the button for deleting leave the entry without its spaces at the
end. Deleting from any entry leaves a first part of it that does not end in a space and has all
symbols but the last one, which is nothing if there was no symbol, or just one. -/
theorem deleting_undoes_insertion (session : Session) :
    let entry := session.window.entry.toList
    let deleted := (session.click .deleteLast).value.window.entry.toList
    (∀ k : Key, ((session.click (.key k)).value.click .deleteLast).value.window.entry.toList =
      entry.rdropWhile (· = ' ')) ∧
    deleted <+: entry ∧ deleted.getLast? ≠ some ' ' ∧
    deleted.filter (· ≠ ' ') = (entry.filter (· ≠ ' ')).dropLast ∧
    (deleted = [] ↔ (entry.filter (· ≠ ' ')).length ≤ 1) := by
  intro entry deleted
  have hdeleted : deleted = Entry.deleteLast entry := session.toList_entry_click_deleteLast
  rw [hdeleted]
  refine ⟨?_, Entry.deleteLast_isPrefix entry, Entry.getLast?_deleteLast_ne entry,
    Entry.symbols_deleteLast entry, Entry.deleteLast_eq_nil_iff entry⟩
  intro k
  rw [Session.toList_entry_click_deleteLast, session.toList_entry_click_key, Entry.deleteLast_insert,
    Entry.dropTrailingSpaces_eq_rdropWhile]

/-- The spaces of a typed entry go as well, and what is left of them is no more than what was typed
before the last symbol. -/
example : Entry.deleteLast "  7  +é  ".toList = "  7  +".toList ∧
    Entry.deleteLast "  7  +".toList = "  7".toList := by decide

end ExactCalc.Window
