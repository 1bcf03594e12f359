import ExactCalc.Operator

/-!
# Editing the entry with the keypad

Keys append to the text of the entry. Operators are set off by spaces, and spaces at the end give
way to them and to a closing parenthesis; deleting takes the spaces around the last symbol along.
Only the plain space counts as one here.
-/

namespace ExactCalc.Window

inductive Key
  | digit (d : Fin 10)
  | opening
  | closing
  | operator (op : Operator)
  deriving DecidableEq

namespace Key

def symbol : Key → Char
  | digit d => Nat.digitChar d
  | opening => '('
  | closing => ')'
  | operator op => op.symbol

def all : List Key :=
  (List.finRange 10).map digit ++ [opening, closing] ++ Operator.all.map operator

end Key

namespace Entry

def dropTrailingSpaces (entry : List Char) : List Char :=
  (entry.reverse.dropWhile (· = ' ')).reverse

/-- No space comes before an operator that is the first symbol. -/
def insertOperator (entry : List Char) (op : Operator) : List Char :=
  let stem := dropTrailingSpaces entry
  (if stem.isEmpty then stem else stem ++ [' ']) ++ [op.symbol, ' ']

def insert (entry : List Char) : Key → List Char
  | .operator op => insertOperator entry op
  | .closing => dropTrailingSpaces entry ++ [')']
  | key => entry ++ [key.symbol]

def deleteLast (entry : List Char) : List Char :=
  dropTrailingSpaces (dropTrailingSpaces entry).dropLast

end Entry

end ExactCalc.Window
