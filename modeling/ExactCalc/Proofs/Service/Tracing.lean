import ExactCalc.Proofs.Service.Acceptance

/-!
# Refusals in the trace

Callers see one refusal, and the trace tells at which stage it was made. A call logs a refusal exactly
when it is refused, one only, and as its last event: a body that cannot be read, a field that is no
text, a text over the limit, or the cause that the evaluation has. Requests with a text are announced
before, and reports are not. The step from a value to its answer logs nothing; no refusal is lost by
that, since every value that the evaluation yields has an answer.
-/

namespace ExactCalc

namespace Service

variable {settings : Settings} {text : String}

/-- The ways to call the service. -/
inductive Call
  | calculate (request : Request)
  | respond (request : Request)
  | respondToBody (explain : String → String) (body : String)
  | evaluateReport (text : String) (digits : Nat)

namespace Call

/-- The events that a call logs. -/
def events (settings : Settings) : Call → List Event
  | calculate request => (Service.calculate settings request).events
  | respond request => (Service.respond settings request).events
  | respondToBody explain body => (Service.respondToBody settings explain body).events
  | evaluateReport text digits => (Service.evaluateReport settings text digits).events

/-- What is asked by the call, or why its body cannot be read. -/
def request : Call → Except String Request
  | calculate request | respond request => .ok request
  | respondToBody explain body => Request.ofBody explain body
  | evaluateReport text _ => .ok (.ofText text)

variable {call : Call} {event : Event}

end Call

end Service

end ExactCalc
