import ExactCalc.Double.Range
import ExactCalc.Infix.Cleaning
import ExactCalc.Infix.Conversion
import ExactCalc.Reading
import ExactCalc.Rpn.Machine
import ExactCalc.Trace

/-!
# Evaluating an expression

The text is cleaned, converted to a postfix program and run exactly; the value has to be in the
range of doubles. Callers see one refusal for every cause.
-/

namespace ExactCalc

/-- What the evaluation of an expression yields on the way to its value. -/
structure Evaluation where
  cleaned : List Char
  program : Rpn.Program
  value : Rat

/-- The steps of an evaluation as texts. -/
structure Working where
  cleaned : String := ""
  program : String := ""
  note : String := ""
  deriving DecidableEq

/-- The readings of a value with the steps that led to it. -/
structure Report where
  exact : String
  reading : String
  working : Working
  deriving DecidableEq

inductive InvalidExpression
  | invalidExpression
  deriving DecidableEq

def InvalidExpression.message : InvalidExpression → String
  | invalidExpression => "invalid expression"

namespace Evaluation

def ofText (text : String) : Except Rejection Evaluation := do
  let cleaned ← Infix.clean text.toList
  let program ← Infix.toPostfix cleaned
  let result ← program.evaluate
  let value ← Double.requireInRange result
  return ⟨cleaned, program, value⟩

def note : String :=
  "Pipeline: validation → RPN (shunting-yard) → pile → finalisation."

def working (evaluation : Evaluation) : Working :=
  ⟨String.ofList evaluation.cleaned, evaluation.program.text, note⟩

def report (evaluation : Evaluation) (digits : Nat) : Report :=
  ⟨Reading.exact evaluation.value, Reading.decimal evaluation.value digits, evaluation.working⟩

end Evaluation

/-- The cause goes to the trace, with the text it is a cause for. -/
def hideCause {α : Type} (text : String) :
    Except Rejection α → Traced (Except InvalidExpression α)
  | .ok a => .silent (.ok a)
  | .error cause => .logged (.expressionRejected text cause) (.error .invalidExpression)

def evaluate (text : String) : Traced (Except InvalidExpression Rat) :=
  hideCause text ((Evaluation.ofText text).map Evaluation.value)

def evaluateReport (text : String) (digits : Nat) : Traced (Except InvalidExpression Report) :=
  hideCause text ((Evaluation.ofText text).map (·.report digits))

end ExactCalc
