import ExactCalc.Answer
import ExactCalc.Evaluation
import ExactCalc.Request
import ExactCalc.Settings

/-!
# The calculation service

Requests are answered with a number or with one fixed refusal. An expression that is longer than the
settings allow is refused before it is looked at.
-/

namespace ExactCalc

/-- The refusal, the same for every cause. -/
inductive BadRequest
  | badRequest
  deriving DecidableEq

namespace BadRequest

def status : Nat := 400

def title : String := "Bad Request"

def message : BadRequest → String
  | badRequest => "Invalid expression provided"

def text (refusal : BadRequest) : String :=
  status.repr ++ " " ++ title ++ ": " ++ refusal.message

/-- The refusal as a JSON object. -/
def body (refusal : BadRequest) : String :=
  "\x7b\"statusCode\":" ++ status.repr ++ ",\"message\":\"" ++ refusal.message ++
    "\",\"error\":\"" ++ title ++ "\"\x7d"

def ofInvalid : InvalidExpression → BadRequest
  | .invalidExpression => badRequest

end BadRequest

structure Response where
  status : Nat
  body : String
  deriving DecidableEq

namespace Response

def okStatus : Nat := 200

def ofResult : Except BadRequest Answer → Response
  | .ok answer => ⟨okStatus, answer.text⟩
  | .error refusal => ⟨BadRequest.status, refusal.body⟩

end Response

namespace Service

variable {α : Type}

/-- The length is that of the text as it was sent, in bytes of UTF-8. -/
def withinLimit (settings : Settings) (text : String)
    (run : Traced (Except InvalidExpression α)) : Traced (Except BadRequest α) :=
  if settings.lengthLimit < text.utf8ByteSize then
    .logged (.expressionTooLong text.utf8ByteSize settings.lengthLimit) (.error .badRequest)
  else run.map (Except.mapError BadRequest.ofInvalid)

def evaluateReport (settings : Settings) (text : String) (digits : Nat) :
    Traced (Except BadRequest Report) :=
  withinLimit settings text (ExactCalc.evaluateReport text digits)

def evaluate (settings : Settings) (text : String) : Traced (Except BadRequest Rat) :=
  withinLimit settings text (ExactCalc.evaluate text)

/-- A value without an answer would be refused as well. -/
def toAnswer (v : Rat) : Except BadRequest Answer :=
  match Answer.ofRat? v with
  | some answer => .ok answer
  | none => .error .badRequest

def calculate (settings : Settings) (request : Request) : Traced (Except BadRequest Answer) :=
  match request.expression with
  | some (.string text) =>
    (Traced.logged (.requestReceived text.utf8ByteSize) ()).bind fun _ ↦
      (evaluate settings text).map (· >>= toAnswer)
  | field => .logged (.fieldNotText field) (.error .badRequest)

theorem calculate_of_text?_eq_none {settings : Settings} {request : Request}
    (h : request.text? = none) :
    calculate settings request = .logged (.fieldNotText request.expression) (.error .badRequest) := by
  unfold calculate
  split
  · next text hexpression => simp [Request.text?, hexpression] at h
  · rfl

def respond (settings : Settings) (request : Request) : Traced Response :=
  (calculate settings request).map Response.ofResult

/-- A body that is not a request is refused like a wrong expression. -/
def respondToBody (settings : Settings) (explain : String → String) (body : String) :
    Traced Response :=
  match Request.ofBody explain body with
  | .ok request => respond settings request
  | .error error => .logged (.bodyUnreadable error) (Response.ofResult (.error .badRequest))

end Service

end ExactCalc
