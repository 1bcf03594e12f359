import ExactCalc.Json.Value

/-!
# JSON data

What a value holds once its strings are read as texts. An object is a map: of the members with one
name the last stays. Numbers stay as they are written.
-/

namespace ExactCalc.Json

inductive Data
  | null
  | bool (b : Bool)
  | number (n : NumberLiteral)
  | string (text : String)
  | array (elements : List Data)
  /-- The members are in the order of their names. -/
  | object (members : List (String × Data))

/-- Puts a member in its place among those that follow it in the text, unless one of them has its
name. -/
def Data.addMember (name : String) (data : Data) : List (String × Data) → List (String × Data)
  | [] => [(name, data)]
  | (other, old) :: rest =>
    if name < other then (name, data) :: (other, old) :: rest
    else if name = other then (other, old) :: rest
    else (other, old) :: addMember name data rest

namespace Value

mutual

/-- Every string has to denote a text and every number to be readable, and containers may be nested
no deeper than the given number of levels. -/
def data? : Value → Nat → Option Data
  | null, _ => some .null
  | bool b, _ => some (.bool b)
  | number n, _ => if n.isReadable then some (.number n) else none
  | string s, _ => s.text?.map .string
  | array _, 0 => none
  | array elements, levels + 1 => (elementsData? elements levels).map .array
  | object _, 0 => none
  | object members, levels + 1 => (membersData? members levels).map .object

def elementsData? : List Value → Nat → Option (List Data)
  | [], _ => some []
  | v :: rest, levels => do
    return (← v.data? levels) :: (← elementsData? rest levels)

def membersData? : List (StringLiteral × Value) → Nat → Option (List (String × Data))
  | [], _ => some []
  | (name, v) :: rest, levels => do
    return Data.addMember (← name.text?) (← v.data? levels) (← membersData? rest levels)

end

/-- Only a string holds a text. -/
theorem data?_eq_string_iff {v : Value} {levels : Nat} {text : String} :
    v.data? levels = some (.string text) ↔ ∃ s, v = .string s ∧ s.text? = some text := by
  cases v with
  | array elements => cases levels <;> simp [data?]
  | object members => cases levels <;> simp [data?]
  | _ => simp [data?]

end Value

end ExactCalc.Json
