import ExactCalc.Proofs.Rpn.Forest
import Mathlib.Data.List.Induction
import Mathlib.Data.List.Infix

/-!
# The height of the stack

A number raises the stack by one value and an operator lowers it by one, so the height that a program
reaches is the count of its numbers less that of its operators. An operator needs two values. Whether
a program runs on trees is therefore decided by the counts before each operator, and it lists a tree
exactly when in addition one value is left at the end.
-/

namespace ExactCalc.Rpn

namespace Token

def isNumber : Token → Bool
  | number _ => true
  | _ => false

def isOperator : Token → Bool
  | operator _ => true
  | _ => false

end Token

namespace Program

def numbers (program : Program) : Nat := program.countP Token.isNumber

def operators (program : Program) : Nat := program.countP Token.isOperator

/-- Every operator is preceded by at least two more numbers than operators. -/
def HasOperands (program : Program) : Prop :=
  ∀ (front : Program) (op : Operator), front ++ [.operator op] <+: program →
    front.operators + 2 ≤ front.numbers

/-- No parenthesis is left in the program, no operator lacks an operand, and in the end one number more
has been counted than operators. -/
structure IsBalanced (program : Program) : Prop where
  opening_notMem : Token.opening ∉ program
  hasOperands : program.HasOperands
  numbers_eq : program.numbers = program.operators + 1

@[simp]
theorem numbers_append (first second : Program) :
    numbers (first ++ second) = numbers first + numbers second :=
  List.countP_append

@[simp]
theorem operators_append (first second : Program) :
    operators (first ++ second) = operators first + operators second :=
  List.countP_append

@[simp]
theorem numbers_singleton (token : Token) : numbers [token] = if token.isNumber then 1 else 0 :=
  List.countP_singleton

@[simp]
theorem operators_singleton (token : Token) :
    operators [token] = if token.isOperator then 1 else 0 :=
  List.countP_singleton

theorem hasOperands_nil : HasOperands [] := by
  intro front op h
  simp at h

/-- One token more has to find its operands if it is an operator. -/
theorem hasOperands_concat_iff {program : Program} {token : Token} :
    HasOperands (program ++ [token]) ↔
      HasOperands program ∧ ∀ op, token = .operator op → program.operators + 2 ≤ program.numbers := by
  constructor
  · intro h
    refine ⟨fun front op hfront ↦ h front op (hfront.trans (List.prefix_append _ _)), ?_⟩
    rintro op rfl
    exact h program op List.prefix_rfl
  · intro h front op hfront
    rcases List.prefix_concat_iff.mp hfront with heq | hfront
    · obtain ⟨rfl, htoken⟩ := List.append_singleton_inj.mp heq
      exact h.2 op htoken.symm
    · exact h.1 front op hfront

end Program

namespace Forest

open Program (HasOperands hasOperands_nil hasOperands_concat_iff)

theorem length_of_step {forest after : Forest} {token : Token}
    (h : forest.step token = some after) :
    after.length + Program.operators [token] = forest.length + Program.numbers [token] := by
  match forest, token with
  | forest, .number n =>
    obtain rfl := Option.some.inj h
    simp [Token.isNumber, Token.isOperator]
  | right :: left :: forest, .operator op =>
    obtain rfl := Option.some.inj h
    simp [Token.isNumber, Token.isOperator]
  | [_], .operator _ | [], .operator _ | _, .opening => simp [step] at h

theorem run_concat (program : Program) (token : Token) (forest : Forest) :
    run (program ++ [token]) forest = (run program forest).bind (step · token) := by
  rw [run_append]
  cases run program forest with
  | none => rfl
  | some middle => cases h : step middle token <;> simp [run_cons, h]

/-- The trees on the stack are the numbers less the operators. -/
theorem length_of_run {program : Program} {forest : Forest} (h : run program [] = some forest) :
    forest.length + program.operators = program.numbers := by
  induction program using List.reverseRecOn generalizing forest with
  | nil =>
    obtain rfl := Option.some.inj h
    rfl
  | append_singleton program token ih =>
    rw [run_concat, Option.bind_eq_some_iff] at h
    obtain ⟨middle, hrun, hstep⟩ := h
    have hbefore := ih hrun
    have hlast := length_of_step hstep
    rw [Program.operators_append, Program.numbers_append]
    omega

/-- A step needs two trees for an operator, and no parenthesis. -/
theorem exists_step_iff {forest : Forest} {token : Token} :
    (∃ after, forest.step token = some after) ↔
      token ≠ .opening ∧ ∀ op, token = .operator op → 2 ≤ forest.length := by
  match forest, token with
  | forest, .number n => simp [step]
  | right :: left :: forest, .operator op => simp [step]
  | [_], .operator _ | [], .operator _ | _, .opening => simp [step]

/-- The counts before the operators decide whether a program runs. -/
theorem exists_run_iff {program : Program} :
    (∃ forest, run program [] = some forest) ↔
      Token.opening ∉ program ∧ HasOperands program := by
  induction program using List.reverseRecOn with
  | nil => simp [hasOperands_nil]
  | append_singleton program token ih =>
    rw [hasOperands_concat_iff, List.mem_append, List.mem_singleton]
    constructor
    · intro h
      obtain ⟨after, h⟩ := h
      rw [run_concat, Option.bind_eq_some_iff] at h
      obtain ⟨forest, hrun, hstep⟩ := h
      obtain ⟨hopening, hoperands⟩ := ih.mp ⟨forest, hrun⟩
      obtain ⟨htoken, htwo⟩ := exists_step_iff.mp ⟨after, hstep⟩
      refine ⟨not_or.mpr ⟨hopening, htoken.symm⟩, hoperands, fun op hop ↦ ?_⟩
      have hlength := length_of_run hrun
      have htwo := htwo op hop
      omega
    · intro h
      obtain ⟨hopening, hoperands, hlast⟩ := h
      obtain ⟨hfront, htoken⟩ := not_or.mp hopening
      obtain ⟨forest, hrun⟩ := ih.mpr ⟨hfront, hoperands⟩
      have htwo : ∀ op, token = .operator op → 2 ≤ forest.length := by
        intro op hop
        have hlength := length_of_run hrun
        have hlast := hlast op hop
        omega
      obtain ⟨after, hstep⟩ := exists_step_iff.mpr ⟨Ne.symm htoken, htwo⟩
      exact ⟨after, by rw [run_concat, hrun, Option.bind_some, hstep]⟩

end Forest

/-- The balanced programs are the listings of trees. -/
theorem Program.isBalanced_iff {program : Program} :
    program.IsBalanced ↔ ∃ tree : Expr, tree.postOrder = program := by
  constructor
  · intro h
    obtain ⟨forest, hrun⟩ := Forest.exists_run_iff.mpr ⟨h.opening_notMem, h.hasOperands⟩
    have hlength := Forest.length_of_run hrun
    have hone : forest.length = 1 := by
      have hnumbers := h.numbers_eq
      omega
    obtain ⟨tree, rfl⟩ := List.length_eq_one_iff.mp hone
    exact ⟨tree, by simpa using Forest.listing_of_run hrun⟩
  · intro h
    obtain ⟨tree, rfl⟩ := h
    have hrun := Forest.run_postOrder tree []
    obtain ⟨hopening, hoperands⟩ := Forest.exists_run_iff.mp ⟨[tree], hrun⟩
    refine ⟨hopening, hoperands, ?_⟩
    rw [← Forest.length_of_run hrun]
    exact Nat.add_comm 1 _

end ExactCalc.Rpn
