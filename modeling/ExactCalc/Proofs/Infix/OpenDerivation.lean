import ExactCalc.Infix.Conversion
import ExactCalc.Proofs.Fallible
import ExactCalc.Proofs.Infix.Derivation

/-!
# Open derivations

A text that is read up to some place is a derivation that is still open. In the innermost
parenthesis, and around every parenthesis that is open, it has a frame: at most one complete sum
with the operator behind it, and then at most one complete product with the operator behind it. The
operand after the innermost frame may be there already.

The state of the conversion is a view of an open derivation that has the lexemes read so far as its
leaves: the operators held back are those of the frames, and the tokens emitted are the post-order
listings of the complete parts. Every step of the conversion extends the open derivation.
-/

namespace ExactCalc.Infix

open Rpn (Program Token)

/-- A complete left operand with the operator behind it. -/
structure LeftOperand (level : Level) where
  derivation : Derivation level
  op : Operator
  binds : op.precedence = level.precedence

namespace LeftOperand

variable {level : Level}

def lexemes (left : LeftOperand level) : List Lexeme :=
  left.derivation.lexemes ++ [.operator left.op]

def emitted (left : LeftOperand level) : Program :=
  left.derivation.tree.postOrder

end LeftOperand

/-- What stands in one parenthesis before an operand. -/
structure Frame where
  sum? : Option (LeftOperand .sum)
  product? : Option (LeftOperand .product)

namespace Frame

def empty : Frame := ⟨none, none⟩

def lexemes (frame : Frame) : List Lexeme :=
  frame.sum?.toList.flatMap LeftOperand.lexemes ++ frame.product?.toList.flatMap LeftOperand.lexemes

def emitted (frame : Frame) : Program :=
  frame.sum?.toList.flatMap LeftOperand.emitted ++ frame.product?.toList.flatMap LeftOperand.emitted

/-- The operators held back in the parenthesis, latest first. -/
def pending (frame : Frame) : List Operator :=
  frame.product?.toList.map LeftOperand.op ++ frame.sum?.toList.map LeftOperand.op

/-- The product that ends with the factor. -/
def product (frame : Frame) (factor : Derivation .factor) : Derivation .product :=
  match frame.product? with
  | none => .ofFactor factor
  | some left => .product left.op left.binds left.derivation factor

/-- The sum that ends with the factor. -/
def sum (frame : Frame) (factor : Derivation .factor) : Derivation .sum :=
  match frame.sum? with
  | none => .ofProduct (frame.product factor)
  | some left => .sum left.op left.binds left.derivation (frame.product factor)

theorem lexemes_product (frame : Frame) (factor : Derivation .factor) :
    (frame.product factor).lexemes =
      frame.product?.toList.flatMap LeftOperand.lexemes ++ factor.lexemes := by
  unfold product
  split
  · next h => simp [h, Derivation.lexemes]
  · next h => simp [h, Derivation.lexemes, LeftOperand.lexemes]

theorem lexemes_sum (frame : Frame) (factor : Derivation .factor) :
    (frame.sum factor).lexemes = frame.lexemes ++ factor.lexemes := by
  unfold sum
  split
  · next h => simp [h, lexemes, Derivation.lexemes, lexemes_product]
  · next h => simp [h, lexemes, Derivation.lexemes, LeftOperand.lexemes, lexemes_product]

theorem postOrder_product (frame : Frame) (factor : Derivation .factor) :
    (frame.product factor).tree.postOrder =
      frame.product?.toList.flatMap LeftOperand.emitted ++ factor.tree.postOrder ++
        (frame.product?.toList.map LeftOperand.op).map .operator := by
  unfold product
  split
  · next h => simp [h, Derivation.tree]
  · next h => simp [h, Derivation.tree, LeftOperand.emitted]

/-- The operators of the frame follow the factor, the latest first. -/
theorem postOrder_sum (frame : Frame) (factor : Derivation .factor) :
    (frame.sum factor).tree.postOrder =
      frame.emitted ++ factor.tree.postOrder ++ frame.pending.map .operator := by
  unfold sum
  split
  · next h => simp [h, emitted, pending, Derivation.tree, postOrder_product]
  · next h => simp [h, emitted, pending, Derivation.tree, LeftOperand.emitted, postOrder_product]

/-- The operators of the frame that another one releases. -/
def released (frame : Frame) (op : Operator) : List Operator :=
  frame.pending.takeWhile fun held ↦ decide (op.precedence ≤ held.precedence)

/-- The operators of the frame that are held back behind another one. -/
def kept (frame : Frame) (op : Operator) : List Operator :=
  frame.pending.dropWhile fun held ↦ decide (op.precedence ≤ held.precedence)

/-- The frame of the operand behind an operator. -/
def addOperator (frame : Frame) (factor : Derivation .factor) (op : Operator) : Frame :=
  if hsum : op.precedence = 1 then ⟨some ⟨frame.sum factor, op, hsum⟩, none⟩
  else ⟨frame.sum?, some ⟨frame.product factor, op, Operator.precedence_eq_two hsum⟩⟩

theorem lexemes_addOperator (frame : Frame) (factor : Derivation .factor) (op : Operator) :
    (frame.addOperator factor op).lexemes = frame.lexemes ++ factor.lexemes ++ [.operator op] := by
  unfold addOperator
  split
  · simp [lexemes, LeftOperand.lexemes, lexemes_sum]
  · simp [lexemes, LeftOperand.lexemes, lexemes_product]

/-- The whole frame is released by an operator that ends a sum. -/
theorem released_of_precedence_one {frame : Frame} {op : Operator} (h : op.precedence = 1) :
    frame.released op = frame.pending ∧ frame.kept op = [] := by
  obtain ⟨sum?, product?⟩ := frame
  rcases sum? with _ | left <;> rcases product? with _ | left' <;>
    simp [released, kept, pending, h, LeftOperand.binds, Level.precedence]

/-- Only the product of the frame is released by an operator that ends a product. -/
theorem released_of_precedence_two {frame : Frame} {op : Operator} (h : op.precedence = 2) :
    frame.released op = frame.product?.toList.map LeftOperand.op ∧
      frame.kept op = frame.sum?.toList.map LeftOperand.op := by
  obtain ⟨sum?, product?⟩ := frame
  rcases sum? with _ | left <;> rcases product? with _ | left' <;>
    simp [released, kept, pending, h, LeftOperand.binds, Level.precedence]

theorem emitted_addOperator (frame : Frame) (factor : Derivation .factor) (op : Operator) :
    (frame.addOperator factor op).emitted =
      frame.emitted ++ factor.tree.postOrder ++ (frame.released op).map .operator := by
  unfold addOperator
  split
  · next h =>
    rw [(released_of_precedence_one h).1]
    simp [emitted, LeftOperand.emitted, postOrder_sum]
  · next h =>
    rw [(released_of_precedence_two (Operator.precedence_eq_two h)).1]
    simp [emitted, LeftOperand.emitted, postOrder_product]

theorem pending_addOperator (frame : Frame) (factor : Derivation .factor) (op : Operator) :
    (frame.addOperator factor op).pending = op :: frame.kept op := by
  unfold addOperator
  split
  · next h =>
    rw [(released_of_precedence_one h).2]
    simp [pending]
  · next h =>
    rw [(released_of_precedence_two (Operator.precedence_eq_two h)).2]
    simp [pending]

end Frame

/-- A derivation as far as it can be seen from the left. -/
structure OpenDerivation where
  /-- The frames around the open parentheses, innermost first. -/
  enclosing : List Frame
  frame : Frame
  operand? : Option (Derivation .factor)

namespace OpenDerivation

def start : OpenDerivation := ⟨[], .empty, none⟩

def lexemes (d : OpenDerivation) : List Lexeme :=
  d.enclosing.reverse.flatMap (fun frame ↦ frame.lexemes ++ [.opening]) ++ d.frame.lexemes ++
    d.operand?.toList.flatMap Derivation.lexemes

def emitted (d : OpenDerivation) : Program :=
  d.enclosing.reverse.flatMap Frame.emitted ++ d.frame.emitted ++
    d.operand?.toList.flatMap fun operand ↦ operand.tree.postOrder

/-- The text read so far. -/
def chars (d : OpenDerivation) : List Char :=
  d.lexemes.flatMap Lexeme.chars

/-- The state of the conversion. -/
def yard (d : OpenDerivation) : Yard where
  emitted := d.emitted.reverse
  pending := d.frame.pending
  enclosing := d.enclosing.map Frame.pending
  awaitsOperand := d.operand?.isNone
  position := d.chars.length

theorem yard_start : start.yard = Yard.start := rfl

/-! ## One lexeme further -/

/-- An operand is complete. -/
def addOperand (d : OpenDerivation) (operand : Derivation .factor) : OpenDerivation :=
  ⟨d.enclosing, d.frame, some operand⟩

/-- A parenthesis is opened. -/
def openGroup (d : OpenDerivation) : OpenDerivation :=
  ⟨d.frame :: d.enclosing, .empty, none⟩

/-- The parenthesis is closed that stands in the given frame and ends with the operand. -/
def closeGroup (d : OpenDerivation) (outer : Frame) (enclosing : List Frame)
    (operand : Derivation .factor) : OpenDerivation :=
  ⟨enclosing, outer, some (d.frame.sum operand).group⟩

/-- An operator follows the operand. -/
def addOperator (d : OpenDerivation) (operand : Derivation .factor) (op : Operator) :
    OpenDerivation :=
  ⟨d.enclosing, d.frame.addOperator operand op, none⟩

section Lexemes

variable {d : OpenDerivation} {operand : Derivation .factor}

theorem lexemes_addOperand (hnone : d.operand? = none) :
    (d.addOperand operand).lexemes = d.lexemes ++ operand.lexemes := by
  simp [addOperand, lexemes, hnone]

theorem lexemes_openGroup (hnone : d.operand? = none) :
    d.openGroup.lexemes = d.lexemes ++ [.opening] := by
  simp [openGroup, lexemes, hnone, Frame.empty, Frame.lexemes]

theorem lexemes_closeGroup {outer : Frame} {enclosing : List Frame}
    (hsome : d.operand? = some operand) (henclosing : d.enclosing = outer :: enclosing) :
    (d.closeGroup outer enclosing operand).lexemes = d.lexemes ++ [.closing] := by
  simp [closeGroup, lexemes, hsome, henclosing, Derivation.lexemes, Frame.lexemes_sum]

theorem lexemes_addOperator {op : Operator} (hsome : d.operand? = some operand) :
    (d.addOperator operand op).lexemes = d.lexemes ++ [.operator op] := by
  simp [addOperator, lexemes, hsome, Frame.lexemes_addOperator]

theorem emitted_addOperand (hnone : d.operand? = none) :
    (d.addOperand operand).emitted = d.emitted ++ operand.tree.postOrder := by
  simp [addOperand, emitted, hnone]

theorem emitted_openGroup (hnone : d.operand? = none) : d.openGroup.emitted = d.emitted := by
  simp [openGroup, emitted, hnone, Frame.empty, Frame.emitted]

theorem emitted_closeGroup {outer : Frame} {enclosing : List Frame}
    (hsome : d.operand? = some operand) (henclosing : d.enclosing = outer :: enclosing) :
    (d.closeGroup outer enclosing operand).emitted =
      d.emitted ++ d.frame.pending.map .operator := by
  simp [closeGroup, emitted, hsome, henclosing, Derivation.tree, Frame.postOrder_sum]

theorem emitted_addOperator {op : Operator} (hsome : d.operand? = some operand) :
    (d.addOperator operand op).emitted = d.emitted ++ (d.frame.released op).map .operator := by
  simp [addOperator, emitted, hsome, Frame.emitted_addOperator]

end Lexemes

theorem chars_of_lexemes {d d' : OpenDerivation} (lexeme : Lexeme)
    (h : d'.lexemes = d.lexemes ++ [lexeme]) : d'.chars = d.chars ++ lexeme.chars := by
  simp [chars, h]

theorem step_number {d : OpenDerivation} {digits : List Char} (hne : digits ≠ [])
    (hdigits : ∀ c ∈ digits, c.isDigit = true) (hnone : d.operand? = none) :
    d.yard.step (.number digits) = .ok (d.addOperand (.number digits hne hdigits)).yard := by
  have hchars : (d.addOperand (.number digits hne hdigits)).chars = d.chars ++ digits :=
    chars_of_lexemes (.number digits) (lexemes_addOperand hnone)
  have hawaits : d.yard.awaitsOperand = true := by simp [yard, hnone]
  rw [Yard.step, Yard.number_of_isScanned _ ⟨hne, hdigits⟩, if_pos hawaits]
  simp only [yard, emitted_addOperand hnone, hchars]
  simp [addOperand, Derivation.tree]

theorem step_opening {d : OpenDerivation} (hnone : d.operand? = none) :
    d.yard.step .opening = .ok d.openGroup.yard := by
  have hchars : d.openGroup.chars = d.chars ++ ['('] :=
    chars_of_lexemes _ (lexemes_openGroup hnone)
  have hawaits : d.yard.awaitsOperand = true := by simp [yard, hnone]
  rw [Yard.step, Yard.opening, if_pos hawaits]
  simp only [yard, emitted_openGroup hnone, hchars]
  simp [openGroup, hnone, Frame.empty, Frame.pending]

theorem step_closing {d : OpenDerivation} {operand : Derivation .factor} {outer : Frame}
    {enclosing : List Frame} (hsome : d.operand? = some operand)
    (henclosing : d.enclosing = outer :: enclosing) :
    d.yard.step .closing = .ok (d.closeGroup outer enclosing operand).yard := by
  have hchars : (d.closeGroup outer enclosing operand).chars = d.chars ++ [')'] :=
    chars_of_lexemes _ (lexemes_closeGroup hsome henclosing)
  have hawaits : ¬ d.yard.awaitsOperand = true := by simp [yard, hsome]
  rw [Yard.step, Yard.closing, if_neg hawaits]
  simp only [yard, emitted_closeGroup hsome henclosing, hchars]
  simp [closeGroup, hsome, henclosing, Yard.emit]

theorem step_operator {d : OpenDerivation} {operand : Derivation .factor} (op : Operator)
    (hsome : d.operand? = some operand) :
    d.yard.step (.operator op) = .ok (d.addOperator operand op).yard := by
  have hchars : (d.addOperator operand op).chars = d.chars ++ [op.symbol] :=
    chars_of_lexemes _ (lexemes_addOperator hsome)
  have hawaits : ¬ d.yard.awaitsOperand = true := by simp [yard, hsome]
  rw [Yard.step, Yard.operator, if_neg hawaits]
  simp only [yard, emitted_addOperator hsome, hchars]
  simp [addOperator, Frame.pending_addOperator, Frame.released, Frame.kept, Yard.emit]

theorem awaitsOperand_yard (d : OpenDerivation) : d.yard.awaitsOperand = d.operand?.isNone := rfl

/-- Every step of the conversion extends the open derivation by the lexeme. -/
theorem exists_of_step {d : OpenDerivation} {lexeme : Lexeme} {after : Yard}
    (hdigits : lexeme.IsScanned) (h : d.yard.step lexeme = .ok after) :
    ∃ d' : OpenDerivation, d'.yard = after ∧ d'.lexemes = d.lexemes ++ [lexeme] := by
  cases hoperand : d.operand? with
  | none =>
    have hawaits : d.yard.awaitsOperand = true := by simp [awaitsOperand_yard, hoperand]
    cases lexeme with
    | number digits =>
      rw [step_number hdigits.1 hdigits.2 hoperand] at h
      exact ⟨_, Except.ok.inj h, lexemes_addOperand hoperand⟩
    | opening =>
      rw [step_opening hoperand] at h
      exact ⟨_, Except.ok.inj h, lexemes_openGroup hoperand⟩
    | closing => simp [Yard.step, Yard.closing, hawaits] at h
    | operator op => simp [Yard.step, Yard.operator, hawaits] at h
    | stray c => simp [Yard.step] at h
  | some operand =>
    have hawaits : d.yard.awaitsOperand = false := by simp [awaitsOperand_yard, hoperand]
    cases lexeme with
    | number digits => simp [Yard.step, Yard.number, hawaits] at h
    | opening => simp [Yard.step, Yard.opening, hawaits] at h
    | closing =>
      cases henclosing : d.enclosing with
      | nil => simp [Yard.step, Yard.closing, yard, hoperand, henclosing] at h
      | cons outer enclosing =>
        rw [step_closing hoperand henclosing] at h
        exact ⟨_, Except.ok.inj h, lexemes_closeGroup hoperand henclosing⟩
    | operator op =>
      rw [step_operator op hoperand] at h
      exact ⟨_, Except.ok.inj h, lexemes_addOperator hoperand⟩
    | stray c => simp [Yard.step] at h

theorem exists_of_run {lexemes : List Lexeme} (hdigits : ∀ lexeme ∈ lexemes, lexeme.IsScanned)
    {d : OpenDerivation} {after : Yard} (h : d.yard.run lexemes = .ok after) :
    ∃ d' : OpenDerivation, d'.yard = after ∧ d'.lexemes = d.lexemes ++ lexemes := by
  induction lexemes generalizing d with
  | nil => exact ⟨d, Except.ok.inj h, by simp⟩
  | cons lexeme lexemes ih =>
    rw [Yard.run_cons, Fallible.bind_eq_ok] at h
    obtain ⟨next, hstep, hrun⟩ := h
    obtain ⟨d₁, rfl, hlexeme⟩ := exists_of_step (hdigits lexeme (by simp)) hstep
    obtain ⟨d₂, rfl, hlexemes⟩ := ih (fun l hl ↦ hdigits l (by simp [hl])) hrun
    exact ⟨d₂, rfl, by simp [hlexemes, hlexeme]⟩

/-- A text that is read without error is an open derivation. -/
theorem exists_of_run_scan {text : List Char} {after : Yard}
    (h : Yard.start.run (Lexeme.scan text) = .ok after) :
    ∃ d : OpenDerivation, d.yard = after ∧ d.chars = text := by
  rw [← yard_start] at h
  obtain ⟨d, hyard, hlexemes⟩ := exists_of_run (fun _ ↦ Lexeme.isScanned_of_mem_scan) h
  refine ⟨d, hyard, ?_⟩
  calc
    d.chars = (start.lexemes ++ Lexeme.scan text).flatMap Lexeme.chars := by
      rw [chars, hlexemes]
    _ = (Lexeme.scan text).flatMap Lexeme.chars := rfl
    _ = text := Lexeme.flatMap_chars_scan text

end OpenDerivation

end ExactCalc.Infix
