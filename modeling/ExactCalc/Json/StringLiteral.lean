/-!
# String literals

The inside of a JSON string is a sequence of characters and of escapes by UTF-16 unit. It denotes a
text when its surrogates come in pairs of adjacent escapes, lead before trail.
-/

namespace ExactCalc.Json

inductive Piece
  | char (c : Char)
  | unit (n : Nat)
  deriving DecidableEq

abbrev StringLiteral := List Piece

namespace Piece

def isLead (n : Nat) : Bool := 0xD800 ≤ n && n < 0xDC00

def isTrail (n : Nat) : Bool := 0xDC00 ≤ n && n < 0xE000

/-- The character of a surrogate pair. -/
def joinPair (lead trail : Nat) : Char :=
  Char.ofNat (0x10000 + (lead - 0xD800) * 0x400 + (trail - 0xDC00))

end Piece

namespace StringLiteral

def chars? : StringLiteral → Option (List Char)
  | [] => some []
  | .char c :: rest => (chars? rest).map (c :: ·)
  | [.unit n] => if Piece.isLead n || Piece.isTrail n then none else some [Char.ofNat n]
  | .unit n :: .unit m :: rest =>
    if Piece.isTrail n then none
    else if Piece.isLead n then
      if Piece.isTrail m then (chars? rest).map (Piece.joinPair n m :: ·) else none
    else (chars? (.unit m :: rest)).map (Char.ofNat n :: ·)
  | .unit n :: .char c :: rest =>
    if Piece.isLead n || Piece.isTrail n then none
    else (chars? (.char c :: rest)).map (Char.ofNat n :: ·)

def text? (literal : StringLiteral) : Option String :=
  (chars? literal).map String.ofList

/-- The short escapes, by the character after the backslash. -/
def shortEscape? : Char → Option Char
  | '"' => some '"'
  | '\\' => some '\\'
  | '/' => some '/'
  | 'b' => some '\x08'
  | 'f' => some '\x0c'
  | 'n' => some '\n'
  | 'r' => some '\r'
  | 't' => some '\t'
  | _ => none

def hexDigit? (c : Char) : Option Nat :=
  if c.isDigit then some (c.toNat - '0'.toNat)
  else if 'a' ≤ c ∧ c ≤ 'f' then some (c.toNat - 'a'.toNat + 10)
  else if 'A' ≤ c ∧ c ≤ 'F' then some (c.toNat - 'A'.toNat + 10)
  else none

def hexUnit? (a b c d : Char) : Option Nat := do
  return (((← hexDigit? a) * 16 + (← hexDigit? b)) * 16 + (← hexDigit? c)) * 16 + (← hexDigit? d)

/-- Reads up to the closing quote, which is consumed. Controls have to be escaped. -/
def read? : List Char → Option (StringLiteral × List Char)
  | [] => none
  | '"' :: rest => some ([], rest)
  | '\\' :: 'u' :: a :: b :: c :: d :: rest => do
    let unit ← hexUnit? a b c d
    let (pieces, after) ← read? rest
    return (.unit unit :: pieces, after)
  | '\\' :: c :: rest => do
    let char ← shortEscape? c
    let (pieces, after) ← read? rest
    return (.char char :: pieces, after)
  | c :: rest =>
    if c.toNat < 0x20 then none
    else do
      let (pieces, after) ← read? rest
      return (.char c :: pieces, after)

theorem length_lt_of_read? {text after : List Char} {pieces : StringLiteral}
    (h : read? text = some (pieces, after)) : after.length < text.length := by
  fun_induction read? text generalizing pieces with
  | case1 => simp at h
  | case2 rest => simp_all
  | case3 a b c d rest ih =>
    simp only [Option.bind_eq_bind, Option.bind_eq_some_iff, Option.pure_def, Option.some.injEq,
      Prod.mk.injEq] at h
    obtain ⟨_, _, _, hread, _, rfl⟩ := h
    have := ih hread
    simp
    omega
  | case4 c rest _ ih =>
    simp only [Option.bind_eq_bind, Option.bind_eq_some_iff, Option.pure_def, Option.some.injEq,
      Prod.mk.injEq] at h
    obtain ⟨_, _, _, hread, _, rfl⟩ := h
    have := ih hread
    simp
    omega
  | case5 => simp at h
  | case6 c rest _ _ _ _ ih =>
    simp only [Option.bind_eq_bind, Option.bind_eq_some_iff, Option.pure_def, Option.some.injEq,
      Prod.mk.injEq] at h
    obtain ⟨_, hread, _, rfl⟩ := h
    have := ih hread
    simp
    omega

end StringLiteral

end ExactCalc.Json
