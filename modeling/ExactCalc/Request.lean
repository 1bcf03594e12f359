import ExactCalc.Json.Data

/-!
# Requests

A request carries an expression in a field of that name, where any data may stand. Its body is an
object, in which other members are ignored whatever they hold, or an array whose one element is the
field.
-/

namespace ExactCalc

structure Request where
  /-- What the field holds. -/
  expression : Option Json.Data

namespace Request

/-- Containers are nested no deeper than this in a body, the body itself included. -/
def maxDepth : Nat := 127

def fieldName : String := "expression"

def ofText (text : String) : Request := ⟨some (.string text)⟩

def empty : Request := ⟨none⟩

/-- The text in the field, if it holds one. -/
def text? (request : Request) : Option String :=
  match request.expression with
  | some (.string text) => some text
  | _ => none

/-- A field that is null counts as absent. -/
def ofData : Json.Data → Request
  | .null => empty
  | data => ⟨some data⟩

/-- The field is read completely even when it is not a string. -/
def ofField? (field : Json.Value) : Option Request :=
  (field.data? (maxDepth - 1)).map ofData

/-- The name of every member is read, and the field may occur once. -/
def ofMembers? (members : List (Json.StringLiteral × Json.Value)) : Option Request := do
  let named ← members.mapM fun (name, v) ↦ name.text?.map (·, v)
  match named.filter (·.1 = fieldName) with
  | [] => some empty
  | [(_, field)] => ofField? field
  | _ => none

def ofJson? : Json.Value → Option Request
  | .array [] => some empty
  | .array [field] => ofField? field
  | .object members => ofMembers? members
  | _ => none

def ofBody? (body : String) : Option Request :=
  (Json.Value.ofText? body).bind ofJson?

/-- A body that is not a request comes with an explanation, worded in any way. -/
def ofBody (explain : String → String) (body : String) : Except String Request :=
  match ofBody? body with
  | some request => .ok request
  | none => .error (explain body)

@[simp] theorem text?_ofText (text : String) : (ofText text).text? = some text := rfl

theorem text?_eq_some_iff {request : Request} {text : String} :
    request.text? = some text ↔ request = ofText text := by
  obtain ⟨expression⟩ := request
  cases expression with
  | none => simp [text?, ofText]
  | some data => cases data <;> simp [text?, ofText]

theorem text?_eq_none_iff {request : Request} :
    request.text? = none ↔ ∀ text, request ≠ ofText text := by
  simp only [Option.eq_none_iff_forall_ne_some, ne_eq, text?_eq_some_iff]

theorem ofData_eq_ofText_iff {data : Json.Data} {text : String} :
    ofData data = ofText text ↔ data = .string text := by
  cases data <;> simp [ofData, ofText, empty]

theorem ofField?_eq_ofText_iff {field : Json.Value} {text : String} :
    ofField? field = some (ofText text) ↔ ∃ s, field = .string s ∧ s.text? = some text := by
  simp [ofField?, ofData_eq_ofText_iff, Json.Value.data?_eq_string_iff]

theorem ofBody_eq_ok_iff {explain : String → String} {body : String} {request : Request} :
    ofBody explain body = .ok request ↔ ofBody? body = some request := by
  cases h : ofBody? body <;> simp [ofBody, h]

end Request

end ExactCalc
