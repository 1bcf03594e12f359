import ExactCalc.Expr
import ExactCalc.Text.Numeral

/-!
# Postfix programs

A program lists numbers and operators in the order in which a stack machine meets them. Its text
puts single spaces between the tokens. An opening parenthesis is a token as well: it has a text, but
no machine accepts it.
-/

namespace ExactCalc.Rpn

inductive Token
  | number (n : Int)
  | operator (op : Operator)
  | opening
  deriving DecidableEq

abbrev Program := List Token

namespace Token

def text : Token → String
  | number n => Text.intText n
  | operator op => op.symbol.toString
  | opening => "("

/-- Numbers may carry a sign and leading zeros. -/
def readNumber? : List Char → Option Int
  | '-' :: digits => (Text.readNumeral? digits).map fun n ↦ -n
  | '+' :: digits => (Text.readNumeral? digits).map fun n ↦ n
  | digits => (Text.readNumeral? digits).map fun n ↦ n

def readSymbol? : List Char → Option Token
  | ['('] => some opening
  | [c] => (Operator.ofSymbol? c).map operator
  | _ => none

def ofText? (text : String) : Option Token :=
  readSymbol? text.toList <|> (readNumber? text.toList).map number

end Token

def Program.text (program : Program) : String :=
  " ".intercalate (program.map Token.text)

end ExactCalc.Rpn

namespace ExactCalc.Expr

/-- Each operator follows the complete listings of its two operands. -/
def postOrder : Expr → Rpn.Program
  | num n => [.number n]
  | binary op left right => left.postOrder ++ right.postOrder ++ [.operator op]

@[simp] theorem postOrder_num (n : Int) : (num n).postOrder = [.number n] := rfl

@[simp] theorem postOrder_binary (op : Operator) (left right : Expr) :
    (binary op left right).postOrder = left.postOrder ++ right.postOrder ++ [.operator op] := rfl

end ExactCalc.Expr
