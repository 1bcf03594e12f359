import ExactCalc.Proofs.Double.Shortest
import ExactCalc.Proofs.Service.Acceptance

/-!
# Faithful answers

The body of an accepted request stands for the value of its expression. A whole number of 64 bits is
written out; any other value is answered by a numeral that is no whole number's and rounds to the
same double as the value, so it has the sign of the value and is not zero.
-/

namespace ExactCalc

namespace Text

theorem intText_eq_toString (n : Int) : intText n = toString n := by
  cases n with
  | ofNat n => rfl
  | negSucc n =>
    rw [intText, if_pos (Int.negSucc_lt_zero n)]
    rfl

end Text

namespace Numeral

theorem readMagnitude?_natText (n : Nat) :
    readMagnitude? (Text.natText n).toList = some ⟨n, 0⟩ := by
  have hread := readMagnitude?_of_no_point [] (fun _ ↦ Text.isDigit_of_mem_natText)
    (by simp : (Text.natText n).toList ≠ []) (by simp)
  rwa [List.append_nil, readTail?, Option.map_some, Text.numeralValue_natText] at hread

/-- The text of a whole number is a numeral of the number. -/
theorem read?_intText (n : Int) :
    read? (Text.intText n).toList = some (.finite ⟨n, 0⟩) := by
  have hdigit : ∀ c ∈ (Text.natText n.natAbs).toList.head?, c.isDigit = true :=
    fun c hc ↦ Text.isDigit_of_mem_natText (List.mem_of_mem_head? hc)
  have hsigned := read?_of_readMagnitude? hdigit (readMagnitude?_natText _) (decide (n < 0))
  unfold Text.intText
  by_cases hneg : n < 0
  · have hvalue : Decimal.negate ⟨n.natAbs, 0⟩ = ⟨n, 0⟩ := by
      rw [Decimal.negate, Int.ofNat_natAbs_of_nonpos hneg.le, neg_neg]
    rw [decide_eq_true hneg, if_pos rfl, if_pos rfl, hvalue] at hsigned
    rwa [if_pos hneg, String.toList_append]
  · rw [decide_eq_false hneg, if_neg Bool.false_ne_true, if_neg Bool.false_ne_true,
      Int.natAbs_of_nonneg (not_lt.mp hneg)] at hsigned
    rwa [if_neg hneg]

end Numeral

namespace Answer

/-- A whole number that fits into 64 bits with its sign. -/
def IsWhole (v : Rat) : Prop :=
  v.den = 1 ∧ -2 ^ 63 ≤ v.num ∧ v.num ≤ 2 ^ 63 - 1

/-- The text is a numeral of a value other than zero that has the sign of the given one and rounds
to the same finite double. -/
def IsNear (text : String) (v : Rat) : Prop :=
  ∃ d y, Numeral.read? text.toList = some (.finite d) ∧ d.toRat ≠ 0 ∧ (0 < d.toRat ↔ 0 < v) ∧
    Double.RoundsTo d.toRat y ∧ Double.RoundsTo v y ∧ |y| < Double.bound

/-- What the text of an answer says of the value that is answered. -/
structure IsFaithful (text : String) (v : Rat) : Prop where
  whole : IsWhole v → text = toString v.num
  near : ¬ IsWhole v → ('.' ∈ text.toList ∨ 'e' ∈ text.toList) ∧ IsNear text v
  nonzero : v ≠ 0 → text ≠ "0" ∧ text ≠ "-0.0"

variable {v : Rat} {answer : Answer}

theorem isInt64_iff (n : Int) : isInt64 n = true ↔ -2 ^ 63 ≤ n ∧ n ≤ 2 ^ 63 - 1 := by
  have hbound : (int64Bound : Int) = 2 ^ 63 := by decide
  rw [isInt64, Bool.and_eq_true, decide_eq_true_eq, decide_eq_true_eq, hbound]
  omega

/-- An answer is the whole number itself, or the nearest double of a value that is none. -/
theorem ofRat?_eq_some_iff :
    ofRat? v = some answer ↔
      (IsWhole v ∧ answer = whole v.num) ∨
        (¬ IsWhole v ∧ ∃ y, Double.nearest? v = some y ∧ answer = double y) := by
  unfold ofRat?
  have hwhole : (v.den = 1 ∧ isInt64 v.num = true) ↔ IsWhole v := by
    rw [isInt64_iff, IsWhole]
  by_cases h : IsWhole v
  · rw [if_pos (hwhole.mpr h)]
    simp [h, eq_comm]
  · rw [if_neg (mt hwhole.mp h)]
    simp [h, eq_comm]

theorem isWhole_zero : IsWhole 0 :=
  ⟨rfl, by decide, by decide⟩

/-- The text of the nearest double is near to the value. -/
theorem isNear_double (hrange : Double.IsInRange v) (hzero : v ≠ 0) {y : Rat}
    (hnearest : Double.nearest? v = some y) : IsNear (double y).text v := by
  obtain ⟨hround, hlt⟩ := Double.nearest?_eq_some_iff.mp hnearest
  have hy : y ≠ 0 := by
    obtain ⟨z, hz, hzlt, hzne⟩ := hrange.resolve_left hzero
    rw [Double.nearest?_eq_some_iff.mpr ⟨hz, hzlt⟩] at hnearest
    rwa [← Option.some.inj hnearest]
  have hback : Double.RoundsTo (Double.shortest y).toRat y :=
    (Double.nearest?_eq_some_iff.mp (Double.nearest?_toRat_shortest hround.isDouble hlt)).1
  have hne := hback.ne_zero hy
  have hcoefficient : (Double.shortest y).coefficient ≠ 0 := by
    intro h
    apply hne
    rw [Decimal.toRat, h, Int.cast_zero, zero_mul]
  obtain ⟨d, hread, hvalue⟩ := Decimal.exists_read?_chars layout hcoefficient
  refine ⟨d, y, ?_, ?_, ?_, ?_, hround, hlt⟩
  · rw [text, Decimal.text, String.toList_ofList, hread]
  · rwa [hvalue]
  · rw [hvalue, hback.pos_iff hy, hround.pos_iff hy]
  · rwa [hvalue]

/-- A numeral of zero is near to no value. -/
theorem IsNear.ne_of_read? {text zero : String} {e : Int} (h : IsNear text v)
    (hzero : Numeral.read? zero.toList = some (.finite ⟨0, e⟩)) : text ≠ zero := by
  rintro rfl
  obtain ⟨d, -, hread, hne, -⟩ := h
  rw [hzero] at hread
  obtain rfl := Numeral.finite.inj (Option.some.inj hread)
  exact hne (Decimal.toRat_zero e)

theorem intText_ne_of_read? {n : Int} (hn : n ≠ 0) {zero : String} {e : Int}
    (hzero : Numeral.read? zero.toList = some (.finite ⟨0, e⟩)) : Text.intText n ≠ zero := by
  rintro rfl
  rw [Numeral.read?_intText] at hzero
  exact hn (Decimal.mk.inj (Numeral.finite.inj (Option.some.inj hzero))).1

theorem isFaithful_text (hrange : Double.IsInRange v) (h : ofRat? v = some answer) :
    IsFaithful answer.text v := by
  have hplain : Numeral.read? "0".toList = some (.finite ⟨0, 0⟩) := by decide
  have hpoint : Numeral.read? "-0.0".toList = some (.finite ⟨0, -1⟩) := by decide
  rcases ofRat?_eq_some_iff.mp h with ⟨hwhole, rfl⟩ | ⟨hnot, y, hnearest, rfl⟩
  · constructor
    case whole =>
      intro _
      exact Text.intText_eq_toString _
    case near =>
      intro hnot
      exact absurd hwhole hnot
    case nonzero =>
      intro hzero
      have hnum : v.num ≠ 0 := Rat.num_ne_zero.mpr hzero
      exact ⟨intText_ne_of_read? hnum hplain, intText_ne_of_read? hnum hpoint⟩
  · have hzero : v ≠ 0 := by
      rintro rfl
      exact hnot isWhole_zero
    have hnear := isNear_double hrange hzero hnearest
    constructor
    case whole =>
      intro hwhole
      exact absurd hwhole hnot
    case near =>
      intro _
      refine ⟨?_, hnear⟩
      rw [text, Decimal.text, String.toList_ofList]
      exact Decimal.mark_mem_chars layout _
    case nonzero =>
      intro _
      exact ⟨hnear.ne_of_read? hplain, hnear.ne_of_read? hpoint⟩

end Answer

namespace Service

/-- A request that is answered asks for a text with a value, and the body is faithful to it. -/
theorem exists_isFaithful_respond {settings : Settings} {request : Request}
    (h : (respond settings request).value.status = Response.okStatus) :
    ∃ text v, request = .ofText text ∧ Accepts settings text v ∧
      Answer.IsFaithful (respond settings request).value.body v := by
  obtain ⟨answer, hanswer⟩ := Response.status_ofResult_eq_okStatus_iff.mp h
  cases htext : request.text? with
  | none =>
    rw [calculate_of_text?_eq_none htext, Traced.value_logged] at hanswer
    cases hanswer
  | some text =>
    obtain rfl := Request.text?_eq_some_iff.mp htext
    obtain ⟨v, haccepts, htoAnswer⟩ := value_calculate_eq_ok_iff.mp hanswer
    have hof : Answer.ofRat? v = some answer := by
      unfold toAnswer at htoAnswer
      split at htoAnswer
      · next hof => rw [hof, Except.ok.inj htoAnswer]
      · simp at htoAnswer
    have hbody : (respond settings (.ofText text)).value.body = answer.text := by
      rw [respond, Traced.value_map, hanswer]
      rfl
    have hfaithful := Answer.isFaithful_text (isInRange_of_evaluate_eq_ok haccepts.evaluates) hof
    rw [← hbody] at hfaithful
    exact ⟨text, v, rfl, haccepts, hfaithful⟩

/-- Every request with status 200 is answered faithfully, and so is every body with that status. -/
theorem answered_bodies_faithful (settings : Settings) :
    (∀ request, (respond settings request).value.status = 200 →
      ∃ text v, request = .ofText text ∧ (ExactCalc.evaluate text).value = .ok v ∧
        Answer.IsFaithful (respond settings request).value.body v) ∧
    ∀ explain body, (respondToBody settings explain body).value.status = 200 →
      ∃ text v, Request.ofBody? body = some (.ofText text) ∧
        (ExactCalc.evaluate text).value = .ok v ∧
        Answer.IsFaithful (respondToBody settings explain body).value.body v := by
  constructor
  · intro request h
    obtain ⟨text, v, htext, haccepts, hfaithful⟩ := exists_isFaithful_respond h
    exact ⟨text, v, htext, haccepts.evaluates, hfaithful⟩
  · intro explain body h
    unfold respondToBody at h ⊢
    cases hbody : Request.ofBody explain body with
    | error error =>
      rw [hbody] at h
      have hrefused : BadRequest.status = 200 := h
      contradiction
    | ok request =>
      rw [hbody] at h
      obtain ⟨text, v, rfl, haccepts, hfaithful⟩ := exists_isFaithful_respond h
      exact ⟨text, v, Request.ofBody_eq_ok_iff.mp hbody, haccepts.evaluates, hfaithful⟩

/-- The whole number after the greatest one of 64 bits. -/
theorem answered_bodies_faithful_beyond_words :
    (respond {} (.ofText "9223372036854775807+1")).value = ⟨200, "9.223372036854776e+18"⟩ ∧
      ∃ text v, Request.ofText "9223372036854775807+1" = .ofText text ∧
        (ExactCalc.evaluate text).value = .ok v ∧
        Answer.IsFaithful "9.223372036854776e+18" v := by
  have hresponse : (respond {} (.ofText "9223372036854775807+1")).value =
      ⟨200, "9.223372036854776e+18"⟩ := by decide +kernel
  have hstatus : (respond {} (.ofText "9223372036854775807+1")).value.status = 200 := by
    rw [hresponse]
  have hfaithful := (answered_bodies_faithful {}).1 _ hstatus
  rw [hresponse] at hfaithful
  exact ⟨hresponse, hfaithful⟩

end Service

end ExactCalc
