import ExactCalc.Json.NumberLiteral
import ExactCalc.Json.StringLiteral

/-!
# Tokens of a JSON text

A text is cut into literals and punctuation. Blanks may stand between tokens; a text that is not cut
completely has no tokens at all.
-/

namespace ExactCalc.Json

inductive Token
  | openBracket
  | closeBracket
  | openBrace
  | closeBrace
  | comma
  | colon
  | null
  | bool (b : Bool)
  | number (n : NumberLiteral)
  | string (s : StringLiteral)
  deriving DecidableEq

def isBlank (c : Char) : Bool :=
  c = ' ' || c = '\t' || c = '\n' || c = '\r'

namespace Token

/-- The token at the front of the text, and what follows it. -/
def read? : List Char → Option (Token × List Char)
  | '[' :: rest => some (openBracket, rest)
  | ']' :: rest => some (closeBracket, rest)
  | '\x7b' :: rest => some (openBrace, rest)
  | '\x7d' :: rest => some (closeBrace, rest)
  | ',' :: rest => some (comma, rest)
  | ':' :: rest => some (colon, rest)
  | 'n' :: 'u' :: 'l' :: 'l' :: rest => some (null, rest)
  | 't' :: 'r' :: 'u' :: 'e' :: rest => some (bool true, rest)
  | 'f' :: 'a' :: 'l' :: 's' :: 'e' :: rest => some (bool false, rest)
  | '"' :: rest => (StringLiteral.read? rest).map fun (s, after) ↦ (string s, after)
  | text => (NumberLiteral.read? text).map fun (n, after) ↦ (number n, after)

theorem length_lt_of_read? {text after : List Char} {token : Token}
    (h : read? text = some (token, after)) : after.length < text.length := by
  unfold read? at h
  split at h
  case h_10 =>
    simp only [Option.map_eq_some_iff, Prod.mk.injEq] at h
    obtain ⟨⟨_, _⟩, hread, rfl, rfl⟩ := h
    have := StringLiteral.length_lt_of_read? hread
    simp
    omega
  case h_11 =>
    simp only [Option.map_eq_some_iff, Prod.mk.injEq] at h
    obtain ⟨⟨_, _⟩, hread, rfl, rfl⟩ := h
    exact NumberLiteral.length_lt_of_read? hread
  all_goals
    simp only [Option.some.injEq, Prod.mk.injEq] at h
    obtain ⟨rfl, rfl⟩ := h
    simp
    try omega

def scan? (text : List Char) : Option (List Token) :=
  match text with
  | [] => some []
  | c :: rest =>
    if isBlank c then scan? rest
    else match _read : read? (c :: rest) with
      | none => none
      | some (token, after) => (scan? after).map (token :: ·)
termination_by text.length
decreasing_by
  · simp
  · exact length_lt_of_read? _read

end Token

end ExactCalc.Json
