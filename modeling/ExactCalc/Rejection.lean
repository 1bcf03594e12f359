import ExactCalc.Text.CharLiteral

/-!
# Causes of rejection

Why a text is not accepted, from its characters to the size of its value. Positions count the
characters of the text being converted, from zero.
-/

namespace ExactCalc

inductive Rejection
  | blank
  | forbidden (c : Char)
  | invalidNumber (text : String)
  | unbalanced
  | missingOperand (position : Nat)
  | unexpectedOperand (position : Nat)
  | openingInProgram
  | emptyStack
  | leftover (count : Nat)
  | divisionByZero
  | tooLarge
  | tooSmall
  deriving DecidableEq

def Rejection.message : Rejection → String
  | blank => "entrée vide"
  | forbidden c => "caractère interdit: " ++ Text.quotedChar c
  | invalidNumber text => "nombre invalide: " ++ text
  | unbalanced => "parenthèses déséquilibrées"
  | missingOperand position => "opérande manquant en position " ++ position.repr
  | unexpectedOperand position => "opérande inattendu en position " ++ position.repr
  | openingInProgram => "jeton inattendu en RPN: ("
  | emptyStack => "pile d’évaluation vide"
  | leftover count => count.repr ++ " valeurs restantes sur la pile (1 attendue)"
  | divisionByZero => "division par zéro"
  | tooLarge => "résultat non représentable (hors f64)"
  | tooSmall => "résultat non nul trop petit pour un f64"

end ExactCalc
