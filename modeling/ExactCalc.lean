import ExactCalc.Answer
import ExactCalc.CommandLine
import ExactCalc.Decimal.Basic
import ExactCalc.Decimal.Layout
import ExactCalc.Decimal.Numeral
import ExactCalc.Double.OfDecimal
import ExactCalc.Double.Range
import ExactCalc.Double.Rounding
import ExactCalc.Double.Shortest
import ExactCalc.Evaluation
import ExactCalc.Expr
import ExactCalc.Infix.Cleaning
import ExactCalc.Infix.Conversion
import ExactCalc.Infix.Grammar
import ExactCalc.Infix.Lexeme
import ExactCalc.Json.Data
import ExactCalc.Json.NumberLiteral
import ExactCalc.Json.StringLiteral
import ExactCalc.Json.Token
import ExactCalc.Json.Value
import ExactCalc.Magnitude
import ExactCalc.Main
import ExactCalc.Operator
import ExactCalc.Reading
import ExactCalc.Rejection
import ExactCalc.Request
import ExactCalc.Rpn.Machine
import ExactCalc.Rpn.Token
import ExactCalc.Service
import ExactCalc.Settings
import ExactCalc.Text.Blank
import ExactCalc.Text.CharLiteral
import ExactCalc.Text.CharRange
import ExactCalc.Text.DefaultIgnorable
import ExactCalc.Text.ExtendingMark
import ExactCalc.Text.Numeral
import ExactCalc.Text.Unprintable
import ExactCalc.Text.Word
import ExactCalc.Trace
import ExactCalc.Window.DigitsField
import ExactCalc.Window.Drawing
import ExactCalc.Window.Entry
import ExactCalc.Window.Session
import ExactCalc.Window.State
import ExactCalc.Proofs.Infix.Derivation
import ExactCalc.Proofs.Infix.Unambiguity
import ExactCalc.Proofs.Infix.OpenDerivation
import ExactCalc.Proofs.Infix.Acceptance
import ExactCalc.Proofs.Infix.Scanning
import ExactCalc.Proofs.Rpn.Listing
import ExactCalc.Proofs.Rpn.Forest
import ExactCalc.Proofs.Infix.Cleaning
import ExactCalc.Proofs.Infix.Viability
import ExactCalc.Proofs.Infix.Placement
import ExactCalc.Proofs.Infix.Refusal
import ExactCalc.Proofs.Double.Rounding
import ExactCalc.Proofs.Evaluation
import ExactCalc.Proofs.Service.Acceptance
import ExactCalc.Proofs.Window.Evaluating
import ExactCalc.Proofs.Service.Surfaces
import ExactCalc.Proofs.Decimal.Numeral
import ExactCalc.Proofs.Reading.Exact
import ExactCalc.Proofs.Decimal.Layout
import ExactCalc.Proofs.Double.Shortest
import ExactCalc.Proofs.Service.Faithfulness
import ExactCalc.Proofs.Json.Grammar
import ExactCalc.Proofs.Json.StringLiteral
import ExactCalc.Proofs.Json.NumberLiteral
import ExactCalc.Proofs.Json.Token
import ExactCalc.Proofs.Json.Value
import ExactCalc.Proofs.Request
import ExactCalc.Proofs.Service.Bodies
import ExactCalc.Proofs.Evaluation.Cause
import ExactCalc.Proofs.Window.Entry
import ExactCalc.Proofs.Window.Keypad
import ExactCalc.Proofs.Window.Frame
import ExactCalc.Proofs.Window.History
import ExactCalc.Proofs.Rpn.Height
import ExactCalc.Proofs.Infix.Expressible
import ExactCalc.Proofs.Window.Reset
import ExactCalc.Proofs.Window.EnterKey
import ExactCalc.Proofs.Service.Tracing
import ExactCalc.Proofs.Double.Range
import ExactCalc.Proofs.Reading.Decimal
import ExactCalc.Proofs.Rpn.Text
import ExactCalc.Proofs.Evaluation.Working
import ExactCalc.Proofs.CommandLine
import ExactCalc.Proofs.Infix.Chain
import ExactCalc.Proofs.Rpn.Context
import ExactCalc.Proofs.Rpn.Fault
import ExactCalc.Proofs.Evaluation.Blanks
import ExactCalc.Proofs.Text.Word
import ExactCalc.Proofs.Settings
import ExactCalc.Proofs.Window.WellFormed
import ExactCalc.Proofs.Window.Independence
import ExactCalc.Proofs.Reading.Precision
import ExactCalc.Proofs.Window.Deleting
import ExactCalc.Proofs.Window.Keyboard
import ExactCalc.Proofs.Infix.OperatorStack
import ExactCalc.Proofs.Reading.Scaled
