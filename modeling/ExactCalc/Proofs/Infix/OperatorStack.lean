import ExactCalc.Proofs.Infix.Placement
import ExactCalc.Proofs.Rpn.Height

/-!
# The operator stack

What the conversion holds back can be seen as one stack: the operators outside all parentheses at the
bottom, and above every open parenthesis the operators inside it. Next to the output, this is all
that the conversion remembers, and each lexeme keeps the two in order.

An operator releases all operators that bind at least as tight before it is held back, so upwards the
operators bind tighter and tighter until the next parenthesis. An operand adds a number to the output,
an operator to the stack, and releasing moves operators from the stack to the output. Hence the
numbers in the output outnumber all operators by one once an operand is there, and every operator is
released behind both of its operands.
-/

namespace ExactCalc

namespace Rpn.Program

theorem numbers_map_operator (operators : List Operator) :
    numbers (operators.map .operator) = 0 := by
  simp [numbers, Token.isNumber]

theorem operators_map_operator (held : List Operator) :
    operators (held.map .operator) = held.length := by
  simp [operators, List.countP_map, Function.comp_def, Token.isOperator]

/-- Operators find their operands as long as there are more numbers than operators in the end. -/
theorem HasOperands.append_operators {program : Program} (h : program.HasOperands)
    {released : List Operator} (hcount : program.operators + released.length < program.numbers) :
    HasOperands (program ++ released.map .operator) := by
  induction released generalizing program with
  | nil => simpa using h
  | cons op released ih =>
    rw [List.length_cons] at hcount
    have hnext : HasOperands (program ++ [.operator op]) :=
      hasOperands_concat_iff.mpr ⟨h, fun _ _ ↦ by omega⟩
    rw [List.map_cons, List.append_cons]
    refine ih hnext ?_
    rw [operators_append, numbers_append, operators_singleton, numbers_singleton]
    simp only [Token.isOperator, Token.isNumber, if_true, Bool.false_eq_true, if_false]
    omega

end Rpn.Program

namespace Infix

open Rpn (Program Token)

/-- From the left on, each operator binds tighter than the one before. -/
def IsAscending (operators : List Operator) : Prop :=
  operators.Pairwise fun left right ↦ left.precedence < right.precedence

/-- There are only two precedences. -/
theorem IsAscending.length_le_two {operators : List Operator} (h : IsAscending operators) :
    operators.length ≤ 2 := by
  have hbounds : ∀ op : Operator, 1 ≤ op.precedence ∧ op.precedence ≤ 2 := by
    intro op
    cases op <;> decide
  match operators with
  | [] | [_] | [_, _] => simp
  | first :: second :: third :: _ =>
    simp only [IsAscending, List.pairwise_cons, List.mem_cons, forall_eq_or_imp] at h
    have hfirst := (hbounds first).1
    have hthird := (hbounds third).2
    omega

namespace Yard

/-- The tokens emitted so far, latest last. -/
def output (yard : Yard) : Program :=
  yard.emitted.reverse

/-- The operators held back, those of the innermost parenthesis first. -/
def segments (yard : Yard) : List (List Operator) :=
  yard.pending :: yard.enclosing

/-- The stack of the operators of the innermost parenthesis above those around it. -/
def stackOf (pending : List Operator) : List (List Operator) → Program
  | [] => pending.reverse.map .operator
  | outer :: enclosing => stackOf outer enclosing ++ .opening :: pending.reverse.map .operator

/-- The operators held back and the open parentheses, latest last. -/
def stack (yard : Yard) : Program :=
  stackOf yard.pending yard.enclosing

theorem opening_notMem_map_operator (operators : List Operator) :
    Token.opening ∉ operators.map Token.operator := by
  simp

/-- The parentheses on the stack stand between the segments. -/
theorem splitOn_stackOf (pending : List Operator) (enclosing : List (List Operator)) :
    (stackOf pending enclosing).splitOn .opening =
      (pending :: enclosing).reverse.map fun held ↦ held.reverse.map .operator := by
  induction enclosing generalizing pending with
  | nil => exact List.splitOn_eq_singleton (opening_notMem_map_operator _)
  | cons outer enclosing ih =>
    have hsegment := List.splitOn_eq_singleton (opening_notMem_map_operator pending.reverse)
    rw [stackOf, List.splitOn_append_cons_self, ih, hsegment, List.reverse_cons (a := pending),
      List.map_append]
    rfl

theorem count_opening_stackOf (pending : List Operator) (enclosing : List (List Operator)) :
    (stackOf pending enclosing).count .opening = enclosing.length := by
  induction enclosing generalizing pending with
  | nil => exact List.count_eq_zero.mpr (opening_notMem_map_operator _)
  | cons outer enclosing ih =>
    have hsegment := List.count_eq_zero.mpr (opening_notMem_map_operator pending.reverse)
    rw [stackOf, List.count_append, ih, List.count_cons_self, hsegment, List.length_cons]

/-- Later operators lie above earlier ones. -/
theorem stackOf_append (later earlier : List Operator) (enclosing : List (List Operator)) :
    stackOf (later ++ earlier) enclosing =
      stackOf earlier enclosing ++ later.reverse.map .operator := by
  cases enclosing <;> simp [stackOf]

/-- Releasing appends the operators to the output. -/
theorem reverse_emit (released : List Operator) (emitted : Program) :
    (emit released emitted).reverse = emitted.reverse ++ released.map .operator := by
  simp [emit]

/-! ## What a lexeme does -/

section Moves

variable {yard after : Yard}

/-- A number goes into the output. -/
theorem output_and_stack_of_number {digits : List Char} (h : yard.number digits = .ok after) :
    yard.awaitsOperand = true ∧ after.awaitsOperand = false ∧
      after.output = yard.output ++ [.number (Text.numeralValue digits)] ∧
      after.segments = yard.segments ∧ after.stack = yard.stack := by
  obtain ⟨hawaits, n, hread, rfl⟩ := number_eq_ok_iff.mp h
  obtain ⟨-, -, rfl⟩ := Text.readNumeral?_eq_some_iff.mp hread
  exact ⟨hawaits, rfl, List.reverse_cons, rfl, rfl⟩

/-- A parenthesis goes onto the stack. -/
theorem output_and_stack_of_opening (h : yard.opening = .ok after) :
    yard.awaitsOperand = true ∧ after.awaitsOperand = true ∧ after.output = yard.output ∧
      after.segments = [] :: yard.segments ∧ after.stack = yard.stack ++ [.opening] := by
  rw [opening] at h
  split_ifs at h with hawaits
  obtain rfl := Except.ok.inj h
  exact ⟨hawaits, hawaits, rfl, rfl, rfl⟩

/-- The operators above the last parenthesis go into the output, and the parenthesis goes. -/
theorem output_and_stack_of_closing (h : yard.closing = .ok after) :
    yard.awaitsOperand = false ∧ after.awaitsOperand = false ∧ ∃ released : List Operator,
      after.output = yard.output ++ released.map .operator ∧
      yard.segments = released :: after.segments ∧
      yard.stack = after.stack ++ .opening :: released.reverse.map .operator := by
  rw [closing] at h
  split_ifs at h with hawaits
  split at h
  · cases h
  · next outer enclosing henclosing =>
    obtain rfl := Except.ok.inj h
    refine ⟨by simpa using hawaits, by simpa using hawaits, yard.pending, reverse_emit _ _, ?_, ?_⟩
    · rw [segments, henclosing]
      rfl
    · rw [stack, henclosing]
      rfl

/-- The operators at the top that bind at least as tight go into the output, and the operator goes
onto what is left of the stack. -/
theorem output_and_stack_of_operator {op : Operator} (h : yard.operator op = .ok after) :
    yard.awaitsOperand = false ∧ after.awaitsOperand = true ∧
      ∃ (released kept : List Operator) (enclosing : List (List Operator)) (below : Program),
      after.output = yard.output ++ released.map .operator ∧
      yard.segments = (released ++ kept) :: enclosing ∧ after.segments = (op :: kept) :: enclosing ∧
      (∀ held ∈ released, op.precedence ≤ held.precedence) ∧
      (∀ held ∈ kept.head?, held.precedence < op.precedence) ∧
      yard.stack = below ++ released.reverse.map .operator ∧
      after.stack = below ++ [.operator op] := by
  rw [operator] at h
  split_ifs at h with hawaits
  obtain rfl := Except.ok.inj h
  let binds := fun held : Operator ↦ decide (op.precedence ≤ held.precedence)
  have hpending : yard.pending.takeWhile binds ++ yard.pending.dropWhile binds = yard.pending :=
    List.takeWhile_append_dropWhile
  refine ⟨by simpa using hawaits, rfl, yard.pending.takeWhile binds, yard.pending.dropWhile binds,
    yard.enclosing, stackOf (yard.pending.dropWhile binds) yard.enclosing, reverse_emit _ _, ?_, rfl,
    ?_, ?_, ?_, stackOf_append [op] _ _⟩
  · rw [hpending, segments]
  · intro held hheld
    simpa [binds] using List.all_eq_true.mp List.all_takeWhile held hheld
  · intro held hheld
    have hstop := List.head?_dropWhile_not binds yard.pending
    rw [Option.mem_def.mp hheld] at hstop
    simpa [binds] using hstop
  · rw [← stackOf_append, hpending, stack]

end Moves

/-- Upwards the operators bind tighter and tighter up to the next parenthesis, the numbers in the
output are as many as the operators in both lists, with one more if the operand is there, and the
output can be executed. -/
structure IsOrderly (yard : Yard) : Prop where
  ascending : ∀ held ∈ yard.segments, IsAscending held.reverse
  numbers_eq : yard.output.numbers = yard.output.operators + yard.stack.operators +
    if yard.awaitsOperand then 0 else 1
  opening_notMem : Token.opening ∉ yard.output
  hasOperands : yard.output.HasOperands

theorem isOrderly_start : start.IsOrderly where
  ascending := by simp [segments, start, IsAscending]
  numbers_eq := rfl
  opening_notMem := by simp [output, start]
  hasOperands := Program.hasOperands_nil

/-- An operator that binds tighter than the one below it goes on top of an ascending segment. -/
theorem isAscending_reverse_cons {op : Operator} {kept : List Operator}
    (h : IsAscending kept.reverse) (hop : ∀ held ∈ kept.head?, held.precedence < op.precedence) :
    IsAscending (op :: kept).reverse := by
  rw [IsAscending, List.pairwise_reverse] at h ⊢
  rw [List.pairwise_cons]
  refine ⟨fun held hheld ↦ ?_, h⟩
  cases kept with
  | nil => simp at hheld
  | cons last kept =>
    have hlast : last.precedence < op.precedence := hop last rfl
    rcases List.mem_cons.mp hheld with rfl | hbelow
    · exact hlast
    · exact ((List.pairwise_cons.mp h).1 held hbelow).trans hlast

namespace IsOrderly

variable {yard after : Yard}

/-- Operators that leave the stack for the output find their operands there. -/
theorem release (h : yard.IsOrderly) (hawaits : yard.awaitsOperand = false)
    {released : List Operator} (houtput : after.output = yard.output ++ released.map .operator)
    {remaining : Nat} (hheight : yard.stack.operators = remaining + released.length) :
    after.output.numbers = after.output.operators + remaining + 1 ∧
      Token.opening ∉ after.output ∧ after.output.HasOperands := by
  have hbefore : yard.output.numbers = yard.output.operators + yard.stack.operators + 1 := by
    rw [h.numbers_eq, hawaits]
    rfl
  have hoperators : after.output.operators = yard.output.operators + released.length := by
    rw [houtput, Program.operators_append, Program.operators_map_operator]
  refine ⟨?_, ?_, ?_⟩
  · calc
      after.output.numbers = yard.output.numbers := by
        rw [houtput, Program.numbers_append, Program.numbers_map_operator, Nat.add_zero]
      _ = after.output.operators + remaining + 1 := by
        omega
  · rw [houtput, List.mem_append, not_or]
    exact ⟨h.opening_notMem, opening_notMem_map_operator released⟩
  · rw [houtput]
    exact h.hasOperands.append_operators (by omega)

theorem number (h : yard.IsOrderly) {digits : List Char} (hstep : yard.number digits = .ok after) :
    after.IsOrderly := by
  obtain ⟨hbefore, hafter, houtput, hsegments, hstack⟩ := output_and_stack_of_number hstep
  have hnumbers : after.output.numbers = yard.output.numbers + 1 := by
    rw [houtput, Program.numbers_append]
    rfl
  have hoperators : after.output.operators = yard.output.operators := by
    rw [houtput, Program.operators_append]
    rfl
  refine ⟨?_, ?_, ?_, ?_⟩
  · rw [hsegments]
    exact h.ascending
  · rw [hnumbers, h.numbers_eq, hbefore, hafter, hoperators, hstack]
    rfl
  · rw [houtput]
    simpa using h.opening_notMem
  · rw [houtput, Program.hasOperands_concat_iff]
    exact ⟨h.hasOperands, nofun⟩

theorem opening (h : yard.IsOrderly) (hstep : yard.opening = .ok after) : after.IsOrderly := by
  obtain ⟨hbefore, hafter, houtput, hsegments, hstack⟩ := output_and_stack_of_opening hstep
  have hheight : after.stack.operators = yard.stack.operators := by
    rw [hstack, Program.operators_append]
    rfl
  refine ⟨?_, ?_, ?_, ?_⟩
  · rw [hsegments, List.forall_mem_cons]
    exact ⟨List.Pairwise.nil, h.ascending⟩
  · rw [houtput, h.numbers_eq, hbefore, hafter, hheight]
  · rw [houtput]
    exact h.opening_notMem
  · rw [houtput]
    exact h.hasOperands

theorem closing (h : yard.IsOrderly) (hstep : yard.closing = .ok after) : after.IsOrderly := by
  obtain ⟨hbefore, hafter, released, houtput, hsegments, hstack⟩ := output_and_stack_of_closing hstep
  have hheight : yard.stack.operators = after.stack.operators + released.length := by
    rw [hstack, List.append_cons, Program.operators_append, Program.operators_append,
      Program.operators_map_operator, List.length_reverse]
    rfl
  obtain ⟨hnumbers, hopening, hoperands⟩ := h.release hbefore houtput hheight
  refine ⟨?_, ?_, hopening, hoperands⟩
  · intro held hheld
    exact h.ascending held (hsegments ▸ List.mem_cons_of_mem released hheld)
  · rw [hnumbers, hafter]
    rfl

theorem operator (h : yard.IsOrderly) {op : Operator} (hstep : yard.operator op = .ok after) :
    after.IsOrderly := by
  obtain ⟨hbefore, hafter, released, kept, enclosing, below, houtput, hsegments, hsegments', -,
    hop, hstack, hstack'⟩ := output_and_stack_of_operator hstep
  have hheight : yard.stack.operators = below.operators + released.length := by
    rw [hstack, Program.operators_append, Program.operators_map_operator, List.length_reverse]
  obtain ⟨hnumbers, hopening, hoperands⟩ := h.release hbefore houtput hheight
  have hascending := h.ascending
  rw [hsegments, List.forall_mem_cons, List.reverse_append] at hascending
  refine ⟨?_, ?_, hopening, hoperands⟩
  · have hkept : IsAscending kept.reverse := hascending.1.sublist (List.sublist_append_left _ _)
    rw [hsegments', List.forall_mem_cons]
    exact ⟨isAscending_reverse_cons hkept hop, hascending.2⟩
  · have hheight' : after.stack.operators = below.operators + 1 := by
      rw [hstack', Program.operators_append]
      rfl
    rw [hnumbers, hafter, hheight']
    rfl

theorem step (h : yard.IsOrderly) {lexeme : Lexeme} (hstep : yard.step lexeme = .ok after) :
    after.IsOrderly := by
  cases lexeme with
  | number digits => exact h.number hstep
  | opening => exact h.opening hstep
  | closing => exact h.closing hstep
  | operator op => exact h.operator hstep
  | stray c => exact absurd hstep nofun

theorem run (h : yard.IsOrderly) {lexemes : List Lexeme} (hrun : yard.run lexemes = .ok after) :
    after.IsOrderly := by
  induction lexemes generalizing yard with
  | nil =>
    obtain rfl := Except.ok.inj hrun
    exact h
  | cons lexeme lexemes ih =>
    rw [run_cons, Fallible.bind_eq_ok] at hrun
    obtain ⟨next, hstep, hrest⟩ := hrun
    exact ih (h.step hstep) hrest

end IsOrderly

end Yard

/-- After each lexeme of a text, upwards the operators on the stack bind tighter and tighter between
any two parentheses, so they are at most two there; the parentheses on the stack are those read and
not closed; the output has as many numbers as output and stack have operators, and one more if no
operand is due; there is no parenthesis in the output, and each operator has its operands in front. -/
theorem stack_and_output_stay_orderly (text : List Char) (front : List Lexeme) (yard : Yard)
    (hfront : front <+: Lexeme.scan text) (hrun : Yard.start.run front = .ok yard) :
    let read := front.flatMap Lexeme.chars
    (∀ segment ∈ yard.stack.splitOn .opening, segment.length ≤ 2 ∧
      ∃ operators : List Operator, segment = operators.map .operator ∧
        operators.Pairwise fun left right ↦ left.precedence < right.precedence) ∧
    (yard.stack.count .opening : Int) = read.count '(' - read.count ')' ∧
    (yard.output.numbers : Int) - (yard.output.operators + yard.stack.operators) =
      (if yard.awaitsOperand then 0 else 1) ∧
    Token.opening ∉ yard.output ∧
    ∀ (before : Program) (op : Operator), before ++ [.operator op] <+: yard.output →
      before.operators + 2 ≤ before.numbers := by
  intro read
  have horderly : yard.IsOrderly := Yard.isOrderly_start.run hrun
  refine ⟨?segments, ?openings, ?numbers, horderly.opening_notMem, horderly.hasOperands⟩
  case segments =>
    rw [Yard.stack, Yard.splitOn_stackOf, List.forall_mem_map]
    intro held hheld
    have hascending := horderly.ascending held (List.mem_reverse.mp hheld)
    exact ⟨by simpa using hascending.length_le_two, held.reverse, rfl, hascending⟩
  case openings =>
    have hread : Lexeme.scan read = front := Lexeme.scan_flatMap_chars hfront
    rw [← hread] at hrun
    have hcount := Yard.enclosing_of_run_scan hrun
    rw [Yard.stack, Yard.count_opening_stackOf]
    omega
  case numbers =>
    have hnumbers := horderly.numbers_eq
    split_ifs at hnumbers ⊢ <;> omega

/-- An operator of each precedence is held back outside a parenthesis and inside it, and the next
operator, the last one of the text, is refused. -/
theorem stack_and_output_stay_orderly_in_group :
    let text := "1-2*(3+4/5*+".toList
    let front : List Lexeme := [.number ['1'], .operator .sub, .number ['2'], .operator .mul, .opening,
      .number ['3'], .operator .add, .number ['4'], .operator .div, .number ['5'], .operator .mul]
    let yard : Yard := ⟨[.operator .div, .number 5, .number 4, .number 3, .number 2, .number 1],
      [.mul, .add], [[.mul, .sub]], true, 11⟩
    front <+: Lexeme.scan text ∧ Yard.start.run front = .ok yard ∧
    yard.stack = [.operator .sub, .operator .mul, .opening, .operator .add, .operator .mul] ∧
    (∀ segment ∈ yard.stack.splitOn .opening, segment.length ≤ 2 ∧
      ∃ operators : List Operator, segment = operators.map .operator ∧
        operators.Pairwise fun left right ↦ left.precedence < right.precedence) ∧
    (yard.stack.count .opening : Int) = 1 - 0 ∧
    (yard.output.numbers : Int) - (yard.output.operators + yard.stack.operators) = 0 ∧
    Token.opening ∉ yard.output ∧
    ∀ (before : Program) (op : Operator), before ++ [.operator op] <+: yard.output →
      before.operators + 2 ≤ before.numbers := by
  intro text front yard
  have hfront : front <+: Lexeme.scan text := by decide
  have hrun : Yard.start.run front = .ok yard := rfl
  exact ⟨hfront, hrun, rfl, stack_and_output_stay_orderly text front yard hfront hrun⟩

end Infix

end ExactCalc
