import ExactCalc.Json.Value

/-!
# The grammar of JSON

What a JSON text of a value looks like, without reference to the readers. A value is written as a
list of tokens, and a text spells them in order with any blanks before, between and behind them.

What a string literal denotes is described from the side of the writer: each character of the text
stands for itself or is escaped by its units of UTF-16. A literal with a surrogate that is not
paired denotes no text.
-/

namespace ExactCalc.Json

namespace StringLiteral

/-- A hexadecimal digit, in either case. -/
def IsHexDigit (c : Char) (n : Nat) : Prop :=
  n < 16 ∧ (c = Nat.digitChar n ∨ c = (Nat.digitChar n).toUpper)

/-- The characters after the backslash, and what they stand for. -/
def shortEscapes : List (Char × Char) :=
  [('"', '"'), ('\\', '\\'), ('/', '/'), ('b', '\x08'), ('f', '\x0c'), ('n', '\n'), ('r', '\r'),
    ('t', '\t')]

/-- The text between the quotes spells the literal. -/
inductive Spells : List Char → StringLiteral → Prop
  | nil : Spells [] []
  | plain {c : Char} {text : List Char} {literal : StringLiteral} (printable : 0x20 ≤ c.toNat)
      (notQuote : c ≠ '"') (notBackslash : c ≠ '\\') :
      Spells text literal → Spells (c :: text) (.char c :: literal)
  | short {e c : Char} {text : List Char} {literal : StringLiteral}
      (mem : (e, c) ∈ shortEscapes) :
      Spells text literal → Spells ('\\' :: e :: text) (.char c :: literal)
  | unit {c₁ c₂ c₃ c₄ : Char} {n₁ n₂ n₃ n₄ : Nat} {text : List Char} {literal : StringLiteral}
      (first : IsHexDigit c₁ n₁) (second : IsHexDigit c₂ n₂) (third : IsHexDigit c₃ n₃)
      (fourth : IsHexDigit c₄ n₄) :
      Spells text literal →
      Spells ('\\' :: 'u' :: c₁ :: c₂ :: c₃ :: c₄ :: text)
        (.unit (((n₁ * 16 + n₂) * 16 + n₃) * 16 + n₄) :: literal)

/-- The units of UTF-16 of a character. -/
def utf16 (c : Char) : List Nat :=
  if c.toNat < 0x10000 then [c.toNat]
  else [0xD800 + (c.toNat - 0x10000) / 0x400, 0xDC00 + (c.toNat - 0x10000) % 0x400]

/-- The literal is the text with some of its characters escaped. -/
inductive Denotes : StringLiteral → List Char → Prop
  | nil : Denotes [] []
  | char (c : Char) {literal : StringLiteral} {text : List Char} :
      Denotes literal text → Denotes (.char c :: literal) (c :: text)
  | escaped (c : Char) {literal : StringLiteral} {text : List Char} :
      Denotes literal text → Denotes ((utf16 c).map .unit ++ literal) (c :: text)

end StringLiteral

namespace NumberLiteral

structure IsDigits (digits : List Char) : Prop where
  ne_nil : digits ≠ []
  isDigit : ∀ c ∈ digits, c.isDigit = true

/-- Only a lone zero starts with one. -/
structure IsWhole (digits : List Char) : Prop extends IsDigits digits where
  eq_zero : digits.head? = some '0' → digits = ['0']

inductive SpellsFraction : List Char → List Char → Prop
  | absent : SpellsFraction [] []
  | present {digits : List Char} : IsDigits digits → SpellsFraction ('.' :: digits) digits

inductive SpellsExponent : List Char → Int → Prop
  | absent : SpellsExponent [] 0
  | unsigned {mark : Char} {digits : List Char} (isMark : mark = 'e' ∨ mark = 'E') :
      IsDigits digits → SpellsExponent (mark :: digits) (Text.numeralValue digits)
  | plus {mark : Char} {digits : List Char} (isMark : mark = 'e' ∨ mark = 'E') :
      IsDigits digits → SpellsExponent (mark :: '+' :: digits) (Text.numeralValue digits)
  | minus {mark : Char} {digits : List Char} (isMark : mark = 'e' ∨ mark = 'E') :
      IsDigits digits → SpellsExponent (mark :: '-' :: digits) (-Text.numeralValue digits)

inductive Spells : List Char → NumberLiteral → Prop
  | positive {whole fractionText fraction exponentText : List Char} {exponent : Int} :
      IsWhole whole → SpellsFraction fractionText fraction → SpellsExponent exponentText exponent →
      Spells (whole ++ (fractionText ++ exponentText)) ⟨false, whole, fraction, exponent⟩
  | negative {whole fractionText fraction exponentText : List Char} {exponent : Int} :
      IsWhole whole → SpellsFraction fractionText fraction → SpellsExponent exponentText exponent →
      Spells ('-' :: (whole ++ (fractionText ++ exponentText))) ⟨true, whole, fraction, exponent⟩

end NumberLiteral

namespace Token

inductive Spells : List Char → Token → Prop
  | openBracket : Spells ['['] .openBracket
  | closeBracket : Spells [']'] .closeBracket
  | openBrace : Spells ['\x7b'] .openBrace
  | closeBrace : Spells ['\x7d'] .closeBrace
  | comma : Spells [','] .comma
  | colon : Spells [':'] .colon
  | null : Spells ['n', 'u', 'l', 'l'] .null
  | boolTrue : Spells ['t', 'r', 'u', 'e'] (.bool true)
  | boolFalse : Spells ['f', 'a', 'l', 's', 'e'] (.bool false)
  | number {text : List Char} {n : NumberLiteral} :
      NumberLiteral.Spells text n → Spells text (.number n)
  | string {text : List Char} {s : StringLiteral} :
      StringLiteral.Spells text s → Spells ('"' :: (text ++ ['"'])) (.string s)

/-- The text spells the tokens, with blanks before, between and behind them. -/
inductive Spaced : List Char → List Token → Prop
  | nil {blanks : List Char} (isBlank : ∀ c ∈ blanks, isBlank c = true) : Spaced blanks []
  | cons {blanks text rest : List Char} {token : Token} {tokens : List Token}
      (isBlank : ∀ c ∈ blanks, isBlank c = true) :
      Spells text token → Spaced rest tokens →
      Spaced (blanks ++ (text ++ rest)) (token :: tokens)

end Token

namespace Value

mutual

/-- The tokens a value is written with. -/
def tokens : Value → List Token
  | null => [.null]
  | bool b => [.bool b]
  | number n => [.number n]
  | string s => [.string s]
  | array [] => [.openBracket, .closeBracket]
  | array (v :: rest) => .openBracket :: (v.tokens ++ nextElements rest)
  | object [] => [.openBrace, .closeBrace]
  | object ((name, v) :: rest) =>
    .openBrace :: .string name :: .colon :: (v.tokens ++ nextMembers rest)

/-- The tokens behind an element of an array, up to the closing bracket. -/
def nextElements : List Value → List Token
  | [] => [.closeBracket]
  | v :: rest => .comma :: (v.tokens ++ nextElements rest)

/-- The tokens behind a member of an object, up to the closing brace. -/
def nextMembers : List (StringLiteral × Value) → List Token
  | [] => [.closeBrace]
  | (name, v) :: rest => .comma :: .string name :: .colon :: (v.tokens ++ nextMembers rest)

end

/-- The text is a JSON text of the value. -/
def IsWritten (v : Value) (text : List Char) : Prop :=
  Token.Spaced text v.tokens

end Value

end ExactCalc.Json
