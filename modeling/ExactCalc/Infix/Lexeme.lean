import ExactCalc.Operator

/-!
# Lexemes of an expression

The text of an expression is cut into runs of digits, as long as possible, and single characters.
Every character belongs to exactly one lexeme, so writing the lexemes out again restores the text;
characters outside the alphabet are kept as strays.
-/

namespace ExactCalc.Infix

inductive Lexeme
  | number (digits : List Char)
  | opening
  | closing
  | operator (op : Operator)
  | stray (c : Char)
  deriving DecidableEq

/-- Digits, operators and parentheses are all that an expression is written with. -/
def isExpressionChar (c : Char) : Bool :=
  c.isDigit || c ∈ ['+', '-', '*', '/', '(', ')']

/-- The alphabet is made of the characters that the scanner knows. -/
theorem isExpressionChar_eq (c : Char) :
    isExpressionChar c =
      (c.isDigit || c = '(' || c = ')' || (Operator.ofSymbol? c).isSome) := by
  rw [Bool.eq_iff_iff]
  simp only [isExpressionChar, Bool.or_eq_true, decide_eq_true_eq, List.mem_cons, List.not_mem_nil,
    or_false, Operator.isSome_ofSymbol?_iff]
  grind

namespace Lexeme

/-- The lexeme of a character that is not a digit. -/
def ofChar (c : Char) : Lexeme :=
  if c = '(' then opening
  else if c = ')' then closing
  else match Operator.ofSymbol? c with
    | some op => operator op
    | none => stray c

def chars : Lexeme → List Char
  | number digits => digits
  | opening => ['(']
  | closing => [')']
  | operator op => [op.symbol]
  | stray c => [c]

/-- A digit in front of a run of digits makes it longer. -/
def addChar (c : Char) (lexemes : List Lexeme) : List Lexeme :=
  if c.isDigit then
    match lexemes with
    | number digits :: rest => number (c :: digits) :: rest
    | rest => number [c] :: rest
  else ofChar c :: lexemes

def scan (text : List Char) : List Lexeme :=
  text.foldr addChar []

@[simp] theorem scan_nil : scan [] = [] := rfl

theorem scan_cons (c : Char) (rest : List Char) : scan (c :: rest) = addChar c (scan rest) := rfl

@[simp] theorem chars_ofChar (c : Char) : (ofChar c).chars = [c] := by
  unfold ofChar
  split
  · simp_all [chars]
  · split
    · simp_all [chars]
    · split
      · next h => simp [chars, Operator.symbol_eq_of_ofSymbol? h]
      · rfl

@[simp] theorem ofChar_symbol (op : Operator) : ofChar op.symbol = operator op := by
  cases op <;> rfl

theorem ofChar_ne_number (c : Char) (digits : List Char) : ofChar c ≠ number digits := by
  unfold ofChar
  split
  · simp
  · split
    · simp
    · split <;> simp

theorem flatMap_chars_addChar (c : Char) (lexemes : List Lexeme) :
    (addChar c lexemes).flatMap chars = c :: lexemes.flatMap chars := by
  unfold addChar
  split
  · split <;> simp [chars]
  · simp

/-- Writing the lexemes out restores the text. -/
theorem flatMap_chars_scan (text : List Char) : (scan text).flatMap chars = text := by
  induction text with
  | nil => rfl
  | cons c rest ih => rw [scan_cons, flatMap_chars_addChar, ih]

theorem scan_cons_of_not_digit {c : Char} (notDigit : c.isDigit = false) (rest : List Char) :
    scan (c :: rest) = ofChar c :: scan rest := by
  simp [scan_cons, addChar, notDigit]

theorem scan_singleton_of_digit {c : Char} (digit : c.isDigit = true) : scan [c] = [number [c]] := by
  simp [scan, addChar, digit]

/-- Numbers are as long as possible. -/
theorem scan_digits_append {digits : List Char} (ne_nil : digits ≠ [])
    (isDigit : ∀ c ∈ digits, c.isDigit = true) {rest : List Char}
    (ends : ∀ c ∈ rest.head?, c.isDigit = false) :
    scan (digits ++ rest) = number digits :: scan rest := by
  induction digits with
  | nil => exact absurd rfl ne_nil
  | cons c tail ih =>
    have digit : c.isDigit = true := isDigit c (by simp)
    rw [List.cons_append, scan_cons]
    cases tail with
    | nil =>
      cases rest with
      | nil => simp [addChar, digit]
      | cons d rest =>
        have notDigit : d.isDigit = false := ends d rfl
        simp only [List.nil_append, scan_cons, addChar, digit, notDigit, if_true,
          Bool.false_eq_true, if_false]
        split
        · next h => exact absurd (List.cons.inj h).1 (ofChar_ne_number d _)
        · rfl
    | cons d tail =>
      rw [ih (by simp) fun c h ↦ isDigit c (List.mem_cons_of_mem _ h)]
      simp [addChar, digit]

/-- A number has digits, and nothing else. -/
def IsScanned : Lexeme → Prop
  | number digits => digits ≠ [] ∧ ∀ c ∈ digits, c.isDigit = true
  | _ => True

theorem isScanned_ofChar (c : Char) : (ofChar c).IsScanned := by
  cases h : ofChar c with
  | number digits => exact absurd h (ofChar_ne_number c digits)
  | _ => trivial

theorem isScanned_of_mem_addChar {c : Char} {lexemes : List Lexeme}
    (scanned : ∀ lexeme ∈ lexemes, lexeme.IsScanned) {lexeme : Lexeme}
    (mem : lexeme ∈ addChar c lexemes) : lexeme.IsScanned := by
  unfold addChar at mem
  split at mem
  · next digit =>
    split at mem
    · next digits rest =>
      rcases List.mem_cons.mp mem with rfl | mem
      · have old : IsScanned (number digits) := scanned _ (by simp)
        exact ⟨by simp, fun d h ↦ by rcases List.mem_cons.mp h with rfl | h <;> simp_all [IsScanned]⟩
      · exact scanned lexeme (by simp [mem])
    · rcases List.mem_cons.mp mem with rfl | mem
      · exact ⟨by simp, by simpa using digit⟩
      · exact scanned lexeme mem
  · rcases List.mem_cons.mp mem with rfl | mem
    · exact isScanned_ofChar c
    · exact scanned lexeme mem

theorem isScanned_of_mem_scan {text : List Char} {lexeme : Lexeme} (mem : lexeme ∈ scan text) :
    lexeme.IsScanned := by
  induction text generalizing lexeme with
  | nil => simp at mem
  | cons c rest ih => exact isScanned_of_mem_addChar (fun _ ↦ ih) mem

end Lexeme

end ExactCalc.Infix
