import ExactCalc.Proofs.Infix.OpenDerivation
import ExactCalc.Proofs.Infix.Scanning
import ExactCalc.Proofs.Infix.Unambiguity
import ExactCalc.Proofs.Rpn.Listing
import ExactCalc.Proofs.Text.Run

/-!
# The conversion and the grammar

The conversion accepts the words of the grammar and no others, and gives the post-order listing of
the one derivation tree of the word.

Reading a whole derivation is described for every state in which it may start: the operators on its
right edge are held back above those that were held before, and releasing them lists the tree. This
goes through the levels by induction, because an operator releases exactly the right edge of its
left operand. The converse reads the derivation off the open derivation at the end of the text.
-/

namespace ExactCalc.Infix

open Rpn (Program Token)

/-- What reading the leaves of a derivation with the given listing leaves behind. -/
structure LeavesBehind (level : Level) (listing : Program) (held : List Operator)
    (before after : Yard) : Prop where
  binds : ∀ op ∈ held, level.precedence ≤ op.precedence
  pending : after.pending = held ++ before.pending
  emitted : Yard.emit held after.emitted = listing.reverse ++ before.emitted
  enclosing : after.enclosing = before.enclosing
  awaitsOperand : after.awaitsOperand = false

/-- The lexemes are read where an operand is due and all operators held back bind looser. -/
def IsRead (level : Level) (lexemes : List Lexeme) (listing : Program) : Prop :=
  ∀ before : Yard, before.awaitsOperand = true →
    (∀ op ∈ before.pending.head?, op.precedence < level.precedence) →
    ∃ held after, before.run lexemes = .ok after ∧ LeavesBehind level listing held before after

theorem emit_append (first second : List Operator) (emitted : Program) :
    Yard.emit (first ++ second) emitted = Yard.emit second (Yard.emit first emitted) := by
  simp [Yard.emit]

namespace IsRead

theorem number {digits : List Char} (hscanned : (Lexeme.number digits).IsScanned) :
    IsRead .factor [.number digits] [.number (Text.numeralValue digits)] := by
  intro before hawaits _
  refine ⟨[], { before with
    emitted := .number (Text.numeralValue digits) :: before.emitted
    awaitsOperand := false
    position := before.position + digits.length }, ?_, by simp, rfl, rfl, rfl, rfl⟩
  rw [Yard.run_singleton, Yard.step, Yard.number_of_isScanned before hscanned, if_pos hawaits]

theorem group {lexemes : List Lexeme} {listing : Program} (h : IsRead .sum lexemes listing) :
    IsRead .factor (.opening :: (lexemes ++ [.closing])) listing := by
  intro before hawaits _
  let inside : Yard := { before with
    pending := []
    enclosing := before.pending :: before.enclosing
    position := before.position + 1 }
  have hopening : before.step .opening = .ok inside := by
    simp [Yard.step, Yard.opening, hawaits, inside]
  obtain ⟨held, after, hrun, hafter⟩ := h inside hawaits (by simp [inside])
  refine ⟨[], { after with
    emitted := Yard.emit after.pending after.emitted
    pending := before.pending
    enclosing := before.enclosing
    position := after.position + 1 }, ?_, by simp, rfl, ?_, rfl, hafter.awaitsOperand⟩
  · have henclosing : after.enclosing = before.pending :: before.enclosing := hafter.enclosing
    calc
      before.run (.opening :: (lexemes ++ [.closing])) = inside.run (lexemes ++ [.closing]) := by
        rw [Yard.run_cons, hopening, Fallible.ok_bind]
      _ = after.step .closing := by
        rw [Yard.run_append, hrun, Fallible.ok_bind, Yard.run_singleton]
      _ = _ := by
        simp [Yard.step, Yard.closing, hafter.awaitsOperand, henclosing]
  · have hpending : after.pending = held := by simpa [inside] using hafter.pending
    have hemitted := hafter.emitted
    rw [← hpending] at hemitted
    exact hemitted

/-- What is read at a level is read at the levels of looser operators. -/
theorem mono {level level' : Level} {lexemes : List Lexeme} {listing : Program}
    (h : IsRead level lexemes listing) (hle : level'.precedence ≤ level.precedence) :
    IsRead level' lexemes listing := by
  intro before hawaits hlooser
  obtain ⟨held, after, hrun, hafter⟩ :=
    h before hawaits fun op hop ↦ Nat.lt_of_lt_of_le (hlooser op hop) hle
  exact ⟨held, after, hrun, { hafter with
    binds := fun op hop ↦ Nat.le_trans hle (hafter.binds op hop) }⟩

/-- The operator releases the right edge of its left operand, and is then held back itself. -/
theorem binary {level level' : Level} {left right : List Lexeme} {first second : Program}
    {op : Operator} (hleft : IsRead level left first) (hright : IsRead level' right second)
    (hop : op.precedence = level.precedence) (hop' : op.precedence < level'.precedence) :
    IsRead level (left ++ .operator op :: right) (first ++ second ++ [.operator op]) := by
  intro before hawaits hlooser
  obtain ⟨held, middle, hrun, hmiddle⟩ := hleft before hawaits hlooser
  let next : Yard := { middle with
    emitted := Yard.emit held middle.emitted
    pending := op :: before.pending
    awaitsOperand := true
    position := middle.position + 1 }
  have hstep : middle.step (.operator op) = .ok next := by
    let binds := fun o : Operator ↦ decide (op.precedence ≤ o.precedence)
    have hheld : ∀ o ∈ held, binds o = true := fun o ho ↦ by
      simpa [binds, hop] using hmiddle.binds o ho
    have hpending : ∀ o ∈ before.pending.head?, binds o = false := fun o ho ↦ by
      simpa [binds, hop] using hlooser o ho
    have hsplit := Text.takeWhile_append_of_stop hheld hpending
    simp only [binds] at hsplit
    simp [Yard.step, Yard.operator, hmiddle.awaitsOperand, hmiddle.pending, hsplit, next]
  obtain ⟨held', after, hrun', hafter⟩ := hright next rfl (by simp [next, hop'])
  refine ⟨held' ++ [op], after, ?_, ?_, ?_, ?_, ?_, hafter.awaitsOperand⟩
  · calc
      before.run (left ++ .operator op :: right) = middle.run (.operator op :: right) := by
        rw [Yard.run_append, hrun, Fallible.ok_bind]
      _ = next.run right := by
        rw [Yard.run_cons, hstep, Fallible.ok_bind]
      _ = .ok after := hrun'
  · intro o ho
    rcases List.mem_append.mp ho with ho | ho
    · have hbinds := hafter.binds o ho
      omega
    · rw [List.mem_singleton.mp ho]
      omega
  · simp [hafter.pending, next]
  · have hnext : next.emitted = first.reverse ++ before.emitted := hmiddle.emitted
    calc
      Yard.emit (held' ++ [op]) after.emitted = Yard.emit [op] (Yard.emit held' after.emitted) :=
        emit_append held' [op] after.emitted
      _ = Yard.emit [op] (second.reverse ++ (first.reverse ++ before.emitted)) := by
        rw [hafter.emitted, hnext]
      _ = (first ++ second ++ [Token.operator op]).reverse ++ before.emitted := by
        simp [Yard.emit]
  · exact hafter.enclosing.trans hmiddle.enclosing

end IsRead

namespace Derivation

theorem isRead {level : Level} (d : Derivation level) :
    IsRead level d.lexemes d.tree.postOrder := by
  induction d with
  | number digits hne hdigits => exact IsRead.number ⟨hne, hdigits⟩
  | group inner ih => exact ih.group
  | ofFactor d ih => exact ih.mono (by decide)
  | ofProduct d ih => exact ih.mono (by decide)
  | product op hop left right ihl ihr => exact ihl.binary ihr hop (by simp [hop, Level.precedence])
  | sum op hop left right ihl ihr => exact ihl.binary ihr hop (by simp [hop, Level.precedence])

/-- A derived text is converted to the post-order listing of its tree. -/
theorem toPostfix_chars (d : Derivation .sum) : toPostfix d.chars = .ok d.tree.postOrder := by
  obtain ⟨held, after, hrun, hafter⟩ := d.isRead Yard.start rfl (by simp [Yard.start])
  have hpending : after.pending = held := by simpa [Yard.start] using hafter.pending
  have henclosing : after.enclosing = [] := hafter.enclosing
  have hemitted : Yard.emit held after.emitted = d.tree.postOrder.reverse := by
    simpa [Yard.start] using hafter.emitted
  rw [toPostfix, scan_chars, hrun, Fallible.ok_bind, Yard.finish_eq_ok_iff, hpending, hemitted]
  exact ⟨hafter.awaitsOperand, henclosing, List.reverse_reverse _⟩

end Derivation

theorem OpenDerivation.exists_of_finish {d : OpenDerivation} {program : Program}
    (h : d.yard.finish = .ok program) :
    ∃ whole : Derivation .sum, whole.lexemes = d.lexemes ∧ whole.tree.postOrder = program := by
  obtain ⟨hawaits, henclosing, hprogram⟩ := Yard.finish_eq_ok_iff.mp h
  have hnil : d.enclosing = [] := List.map_eq_nil_iff.mp henclosing
  obtain ⟨operand, hoperand⟩ := Option.isSome_iff_exists.mp (Option.isNone_eq_false_iff.mp hawaits)
  refine ⟨d.frame.sum operand, ?_, ?_⟩
  · simp [lexemes, hoperand, hnil, Frame.lexemes_sum]
  · rw [← hprogram, Frame.postOrder_sum]
    simp [Yard.emit, yard, emitted, hoperand, hnil]

theorem toPostfix_eq_ok_iff {text : List Char} {program : Program} :
    toPostfix text = .ok program ↔
      ∃ d : Derivation .sum, d.chars = text ∧ d.tree.postOrder = program := by
  constructor
  · intro h
    obtain ⟨yard, hrun, hfinish⟩ := Fallible.bind_eq_ok.mp h
    obtain ⟨opened, rfl, hopened⟩ := OpenDerivation.exists_of_run_scan hrun
    obtain ⟨d, hlexemes, hlisting⟩ := OpenDerivation.exists_of_finish hfinish
    refine ⟨d, ?_, hlisting⟩
    rw [Derivation.chars, hlexemes, ← hopened, OpenDerivation.chars]
  · intro h
    obtain ⟨d, rfl, rfl⟩ := h
    exact d.toPostfix_chars

theorem exists_toPostfix_eq_ok_iff (text : List Char) :
    (∃ program, toPostfix text = .ok program) ↔ IsExpression text := by
  rw [Derivation.isExpression_iff]
  constructor
  · intro h
    obtain ⟨program, h⟩ := h
    obtain ⟨d, hchars, -⟩ := toPostfix_eq_ok_iff.mp h
    exact ⟨d, hchars⟩
  · intro h
    obtain ⟨d, rfl⟩ := h
    exact ⟨d.tree.postOrder, d.toPostfix_chars⟩

/-- The listing of a derivation has one number for each number among the leaves. -/
theorem Derivation.numbers_postOrder {level : Level} (d : Derivation level) :
    d.tree.postOrder.filterMap Token.number? =
      (d.lexemes.filterMap Lexeme.digits?).map fun digits ↦ (Text.numeralValue digits : Int) := by
  induction d with
  | number digits hne hdigits => rfl
  | group inner ih => simp [tree, lexemes, List.filterMap_cons, Lexeme.digits?, ih]
  | ofFactor d ih => exact ih
  | ofProduct d ih => exact ih
  | product op hop left right ihl ihr =>
    simp [tree, lexemes, List.filterMap_cons, Lexeme.digits?, Token.number?, ihl, ihr]
  | sum op hop left right ihl ihr =>
    simp [tree, lexemes, List.filterMap_cons, Lexeme.digits?, Token.number?, ihl, ihr]

/-- The program of an accepted text lists the one derivation tree of the text. Its numbers are the
values of the longest runs of digits, and no parenthesis is left in it. -/
theorem toPostfix_lists_unique_derivation {text : List Char} {program : Program}
    (h : toPostfix text = .ok program) :
    (∃ d : Derivation .sum,
      (∀ d' : Derivation .sum, d'.chars = text ↔ d' = d) ∧ program = d.tree.postOrder) ∧
    program.filterMap Token.number? =
      (Lexeme.digitRuns text).map (fun digits ↦ (Text.numeralValue digits : Int)) ∧
    Token.opening ∉ program := by
  obtain ⟨d, rfl, rfl⟩ := toPostfix_eq_ok_iff.mp h
  refine ⟨⟨d, ?unique, rfl⟩, ?numbers, d.tree.opening_notMem_postOrder⟩
  case unique =>
    intro d'
    constructor
    · intro hchars
      exact Derivation.chars_injective hchars
    · intro heq
      rw [heq]
  case numbers =>
    rw [d.numbers_postOrder, ← d.scan_chars, Lexeme.filterMap_digits?_scan]

/-- Zeros on the left, both precedences and two nested parentheses. -/
theorem toPostfix_nested_quotient :
    let text := "(12+3*(4-05))/6".toList
    let program : Program := [.number 12, .number 3, .number 4, .number 5, .operator .sub,
      .operator .mul, .operator .add, .number 6, .operator .div]
    toPostfix text = .ok program ∧
      (∃ d : Derivation .sum,
        (∀ d' : Derivation .sum, d'.chars = text ↔ d' = d) ∧ program = d.tree.postOrder) ∧
      program.filterMap Token.number? =
        (Lexeme.digitRuns text).map (fun digits ↦ (Text.numeralValue digits : Int)) ∧
      Token.opening ∉ program :=
  ⟨rfl, toPostfix_lists_unique_derivation rfl⟩

end ExactCalc.Infix
