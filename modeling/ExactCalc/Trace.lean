import ExactCalc.Json.Data
import ExactCalc.Rejection
import ExactCalc.Text.Word

/-!
# Traces

A traced value comes with the events logged on the way to it, in order. Refusals show one message to
every caller; the trace is where their causes are kept.
-/

namespace ExactCalc

inductive Severity
  | debug
  | warning
  deriving DecidableEq

inductive Event
  | expressionRejected (expression : String) (cause : Rejection)
  | requestReceived (length : Nat)
  | expressionTooLong (length limit : Nat)
  | fieldNotText (field : Option Json.Data)
  | bodyUnreadable (error : String)
  | zeroLimit (key : String)
  | settingUnreadable (key value : String) (cause : Text.WordError)

namespace Event

def severity : Event → Severity
  | zeroLimit .. | settingUnreadable .. => .warning
  | _ => .debug

def message : Event → String
  | expressionRejected .. => "expression rejetée"
  | requestReceived .. => "requête de calcul"
  | expressionTooLong .. => "expression trop longue"
  | fieldNotText .. => "champ \x60expression\x60 absent ou non textuel"
  | bodyUnreadable .. => "corps de requête illisible"
  | zeroLimit .. => "plafond nul ignoré"
  | settingUnreadable .. => "réglage illisible ignoré"

end Event

structure Traced (α : Type) where
  value : α
  events : List Event

namespace Traced

variable {α β : Type}

def silent (value : α) : Traced α := ⟨value, []⟩

/-- The value together with its one event. -/
def logged (event : Event) (value : α) : Traced α := ⟨value, [event]⟩

def map (f : α → β) (x : Traced α) : Traced β := ⟨f x.value, x.events⟩

/-- The events of the second computation follow those of the first. -/
def bind (x : Traced α) (f : α → Traced β) : Traced β :=
  ⟨(f x.value).value, x.events ++ (f x.value).events⟩

@[simp] theorem value_silent (a : α) : (silent a).value = a := rfl
@[simp] theorem events_silent (a : α) : (silent a).events = [] := rfl
@[simp] theorem value_logged (e : Event) (a : α) : (logged e a).value = a := rfl
@[simp] theorem events_logged (e : Event) (a : α) : (logged e a).events = [e] := rfl
@[simp] theorem value_map (f : α → β) (x : Traced α) : (x.map f).value = f x.value := rfl
@[simp] theorem events_map (f : α → β) (x : Traced α) : (x.map f).events = x.events := rfl

@[simp] theorem value_bind (x : Traced α) (f : α → Traced β) :
    (x.bind f).value = (f x.value).value := rfl

@[simp] theorem events_bind (x : Traced α) (f : α → Traced β) :
    (x.bind f).events = x.events ++ (f x.value).events := rfl

end Traced

end ExactCalc
