/-!
# Runs of characters

A text is cut where a condition stops to hold, from the left as far as it holds, or from the right
as far as one character repeats.
-/

namespace ExactCalc.Text

/-- A condition that holds of a first part and fails at once after it splits the two. -/
theorem takeWhile_append_of_stop {α : Type} {p : α → Bool} {front tail : List α}
    (hfront : ∀ a ∈ front, p a = true) (htail : ∀ a ∈ tail.head?, p a = false) :
    (front ++ tail).takeWhile p = front ∧ (front ++ tail).dropWhile p = tail := by
  rw [List.takeWhile_append_of_pos hfront, List.dropWhile_append_of_pos hfront]
  cases tail with
  | nil => simp
  | cons a tail =>
    have ha : p a = false := htail a rfl
    simp [ha]

/-- What is dropped from the right is one character repeated. -/
theorem exists_dropWhile_reverse_append (c : Char) (text : List Char) :
    ∃ n, text = (text.reverse.dropWhile (· = c)).reverse ++ List.replicate n c := by
  refine ⟨(text.reverse.takeWhile (· = c)).length, ?_⟩
  have hrun : (text.reverse.takeWhile (· = c)).reverse =
      List.replicate (text.reverse.takeWhile (· = c)).length c := by
    rw [List.eq_replicate_iff, List.length_reverse]
    refine ⟨rfl, fun d hd ↦ ?_⟩
    simpa using List.all_eq_true.mp List.all_takeWhile d (List.mem_reverse.mp hd)
  rw [← hrun, ← List.reverse_append, List.takeWhile_append_dropWhile, List.reverse_reverse]

end ExactCalc.Text
