import ExactCalc.Rpn.Token

/-!
# Reading the text of a program

The tokens of a program are written without spaces, so a text that is split at its spaces falls into
the texts of the tokens, and each of these is read as its token. A sign alone is an operator; in
front of digits it belongs to the number.

So the text of a program determines its tokens. This holds without tokens as well: no token has an
empty text, hence none is read from one, and the empty text stands for the empty program alone.
-/

namespace ExactCalc.Rpn

namespace Token

/-- A number without a sign is a numeral. -/
theorem readNumber?_of_isDigit {digits : List Char} (hdigits : ∀ c ∈ digits, c.isDigit = true) :
    readNumber? digits = (Text.readNumeral? digits).map fun n ↦ (n : Int) := by
  unfold readNumber?
  split
  · exact absurd (hdigits '-' (by simp)) (by decide)
  · exact absurd (hdigits '+' (by simp)) (by decide)
  · rfl

theorem readNumber?_natText (n : Nat) : readNumber? (Text.natText n).toList = some (n : Int) := by
  rw [readNumber?_of_isDigit fun _ ↦ Text.isDigit_of_mem_natText, Text.readNumeral?_natText]
  rfl

theorem readSymbol?_of_isDigit {digits : List Char} (hdigits : ∀ c ∈ digits, c.isDigit = true) :
    readSymbol? digits = none := by
  unfold readSymbol?
  split
  · exact absurd (hdigits '(' (by simp)) (by decide)
  · next c _ => rw [Operator.ofSymbol?_of_isDigit (hdigits c (by simp)), Option.map_none]
  · rfl

theorem toList_intText_of_neg {n : Int} (hneg : n < 0) :
    (Text.intText n).toList = '-' :: (Text.natText n.natAbs).toList := by
  rw [Text.intText, if_pos hneg, String.toList_append]
  rfl

theorem toList_intText_of_nonneg {n : Int} (hnonneg : ¬ n < 0) :
    (Text.intText n).toList = (Text.natText n.natAbs).toList := by
  rw [Text.intText, if_neg hnonneg]

theorem readNumber?_intText (n : Int) : readNumber? (Text.intText n).toList = some n := by
  by_cases hneg : n < 0
  · have hvalue : -(n.natAbs : Int) = n := by omega
    rw [toList_intText_of_neg hneg, readNumber?, Text.readNumeral?_natText]
    exact congrArg some hvalue
  · have hvalue : (n.natAbs : Int) = n := by omega
    rw [toList_intText_of_nonneg hneg, readNumber?_natText, hvalue]

/-- A number has a digit, so it is no symbol, not even behind a sign. -/
theorem readSymbol?_intText (n : Int) : readSymbol? (Text.intText n).toList = none := by
  by_cases hneg : n < 0
  · have hne : (Text.natText n.natAbs).toList ≠ [] := by simp
    obtain ⟨c, rest, hdigits⟩ := List.exists_cons_of_ne_nil hne
    rw [toList_intText_of_neg hneg, hdigits]
    rfl
  · rw [toList_intText_of_nonneg hneg]
    exact readSymbol?_of_isDigit fun _ ↦ Text.isDigit_of_mem_natText

/-- A token is read from its text. -/
theorem ofText?_text (token : Token) : ofText? token.text = some token := by
  cases token with
  | number n =>
    rw [ofText?, text, readSymbol?_intText, readNumber?_intText]
    rfl
  | operator op => cases op <;> rfl
  | opening => rfl

theorem space_notMem_text (token : Token) : ' ' ∉ token.text.toList := by
  cases token with
  | number n =>
    have hdigits : ' ' ∉ (Text.natText n.natAbs).toList := fun hspace ↦
      absurd (Text.isDigit_of_mem_natText hspace) (by decide)
    by_cases hneg : n < 0
    · rw [text, toList_intText_of_neg hneg, List.mem_cons, not_or]
      exact ⟨by decide, hdigits⟩
    · rwa [text, toList_intText_of_nonneg hneg]
  | operator op => cases op <;> decide
  | opening => decide

end Token

namespace Program

/-- The tokens of a text, one between any two spaces next to each other. -/
def ofText? (text : String) : Option Program :=
  (text.toList.splitOn ' ').mapM fun piece ↦ Token.ofText? (String.ofList piece)

theorem splitOn_toList_text {program : Program} (hne : program ≠ []) :
    program.text.toList.splitOn ' ' = program.map fun token ↦ token.text.toList := by
  have hspaces : ∀ piece ∈ program.map fun token ↦ token.text.toList, ' ' ∉ piece := by
    intro piece hpiece
    obtain ⟨token, -, rfl⟩ := List.mem_map.mp hpiece
    exact token.space_notMem_text
  rw [text, String.toList_intercalate, List.map_map]
  exact List.splitOn_intercalate ' ' hspaces (by simpa using hne)

theorem mapM_ofText?_map_text (program : Program) :
    (program.map fun token ↦ token.text.toList).mapM
      (fun piece ↦ Token.ofText? (String.ofList piece)) = some program := by
  induction program with
  | nil => rfl
  | cons token program ih =>
    rw [List.map_cons, List.mapM_cons, ih, String.ofList_toList, token.ofText?_text]
    rfl

/-- A program is read back from its text, unless it is empty. -/
theorem ofText?_text {program : Program} (hne : program ≠ []) :
    ofText? program.text = some program := by
  rw [ofText?, splitOn_toList_text hne, mapM_ofText?_map_text]

/-- The empty text is one piece without characters, which is no token. -/
theorem ofText?_text_nil : ofText? (text []) = none := by
  decide

/-- Every program is read back once a text without tokens is taken for the empty program. -/
theorem getD_ofText?_text (program : Program) : (ofText? program.text).getD [] = program := by
  cases program with
  | nil => rw [ofText?_text_nil, Option.getD_none]
  | cons token rest => rw [ofText?_text (List.cons_ne_nil token rest), Option.getD_some]

/-- Different programs have different texts. -/
theorem text_injective : Function.Injective Program.text := by
  intro p q htext
  calc
    p = (ofText? p.text).getD [] := (getD_ofText?_text p).symm
    _ = (ofText? q.text).getD [] := by rw [htext]
    _ = q := getD_ofText?_text q

/-- One sign belongs to a number and the other is an operator, in a program written out and in the
listing of a difference. -/
theorem text_injective_two_signs :
    text [.number 7, .number (-2), .operator .sub] = "7 -2 -" ∧
      (Expr.binary .sub (.num 7) (.num (-2))).postOrder.text = "7 -2 -" ∧
      [.number 7, .number (-2), .operator .sub] =
        (Expr.binary .sub (.num 7) (.num (-2))).postOrder := by
  have hwritten : text [.number 7, .number (-2), .operator .sub] = "7 -2 -" := by decide
  have hlisted : (Expr.binary .sub (.num 7) (.num (-2))).postOrder.text = "7 -2 -" := by
    decide
  exact ⟨hwritten, hlisted, text_injective (hwritten.trans hlisted.symm)⟩

end Program

end ExactCalc.Rpn
