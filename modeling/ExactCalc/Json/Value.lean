import ExactCalc.Json.Token

/-!
# JSON values

A value is built from the tokens of a text in one pass. The containers around the value being read
are kept as frames; a value that is complete goes into the innermost frame, or is the result when
there is none. Nothing bounds the nesting here.
-/

namespace ExactCalc.Json

inductive Value
  | null
  | bool (b : Bool)
  | number (n : NumberLiteral)
  | string (s : StringLiteral)
  | array (elements : List Value)
  | object (members : List (StringLiteral × Value))

/-- A container in which a value is being read, with its earlier contents, latest first. -/
inductive Frame
  | array (elements : List Value)
  | object (members : List (StringLiteral × Value)) (name : StringLiteral)

/-- What may come next, and the containers around it, innermost first. -/
inductive Builder
  | value (frames : List Frame)
  | firstElement (frames : List Frame)
  | firstName (frames : List Frame)
  | nextName (members : List (StringLiteral × Value)) (frames : List Frame)
  | colon (members : List (StringLiteral × Value)) (name : StringLiteral) (frames : List Frame)
  | afterElement (elements : List Value) (frames : List Frame)
  | afterMember (members : List (StringLiteral × Value)) (frames : List Frame)
  | done (v : Value)

namespace Builder

def complete (v : Value) : List Frame → Builder
  | [] => done v
  | .array elements :: frames => afterElement (v :: elements) frames
  | .object members name :: frames => afterMember ((name, v) :: members) frames

/-- The token a value begins with. -/
def begin? (frames : List Frame) : Token → Option Builder
  | .null => some (complete .null frames)
  | .bool b => some (complete (.bool b) frames)
  | .number n => some (complete (.number n) frames)
  | .string s => some (complete (.string s) frames)
  | .openBracket => some (firstElement frames)
  | .openBrace => some (firstName frames)
  | _ => none

def step? : Builder → Token → Option Builder
  | value frames, token => begin? frames token
  | firstElement frames, .closeBracket => some (complete (.array []) frames)
  | firstElement frames, token => begin? (.array [] :: frames) token
  | firstName frames, .closeBrace => some (complete (.object []) frames)
  | firstName frames, .string s => some (colon [] s frames)
  | nextName members frames, .string s => some (colon members s frames)
  | colon members s frames, .colon => some (value (.object members s :: frames))
  | afterElement elements frames, .comma => some (value (.array elements :: frames))
  | afterElement elements frames, .closeBracket =>
    some (complete (.array elements.reverse) frames)
  | afterMember members frames, .comma => some (nextName members frames)
  | afterMember members frames, .closeBrace => some (complete (.object members.reverse) frames)
  | _, _ => none

def run? (tokens : List Token) (builder : Builder) : Option Builder :=
  tokens.foldlM step? builder

def result? : Builder → Option Value
  | done v => some v
  | _ => none

end Builder

namespace Value

def ofTokens? (tokens : List Token) : Option Value :=
  (Builder.run? tokens (.value [])).bind Builder.result?

/-- The value the whole text denotes. -/
def ofText? (text : String) : Option Value :=
  (Token.scan? text.toList).bind ofTokens?

end Value

end ExactCalc.Json
