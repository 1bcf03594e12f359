import ExactCalc.Proofs.Evaluation
import ExactCalc.Service

/-!
# Accepted expressions

The service accepts an expression that is not too long and has a value in the range of doubles.
Every such value has an answer, so nothing is refused once the evaluation has ended well.
-/

namespace ExactCalc

/-- A value in the range of doubles has an answer: it is near to a double if it is no whole number
of 64 bits. -/
theorem Answer.exists_ofRat?_eq_some {v : Rat} (hrange : Double.IsInRange v) :
    ∃ answer, Answer.ofRat? v = some answer := by
  unfold Answer.ofRat?
  split
  · exact ⟨_, rfl⟩
  · have hnearest : ∃ y, Double.nearest? v = some y := by
      rcases hrange with rfl | ⟨y, hround, hlt, -⟩
      · exact ⟨0, Double.nearest?_zero⟩
      · exact ⟨y, Double.nearest?_eq_some_iff.mpr ⟨hround, hlt⟩⟩
    obtain ⟨y, hy⟩ := hnearest
    exact ⟨.double y, by rw [hy, Option.map_some]⟩

theorem exists_evaluation_of_evaluate_eq_ok {text : String} {v : Rat}
    (h : (evaluate text).value = .ok v) :
    ∃ evaluation, Evaluation.ofText text = .ok evaluation ∧ evaluation.value = v := by
  rwa [evaluate, value_hideCause_eq_ok_iff, Fallible.map_eq_ok] at h

theorem isInRange_of_evaluate_eq_ok {text : String} {v : Rat}
    (h : (evaluate text).value = .ok v) : Double.IsInRange v := by
  obtain ⟨evaluation, hevaluation, rfl⟩ := exists_evaluation_of_evaluate_eq_ok h
  exact (Evaluation.ofText_eq_ok_iff.mp hevaluation).2.2.2

/-- A report is made exactly from an evaluation that ends well. -/
theorem value_evaluateReport_eq_ok_iff {text : String} {digits : Nat} {report : Report} :
    (evaluateReport text digits).value = .ok report ↔
      ∃ evaluation, Evaluation.ofText text = .ok evaluation ∧ evaluation.report digits = report := by
  rw [evaluateReport, value_hideCause_eq_ok_iff, Fallible.map_eq_ok]

/-- The report is about the value that the evaluation yields. -/
theorem exists_report_eq_ok_iff {text : String} {digits : Nat} :
    (∃ report, (evaluateReport text digits).value = .ok report) ↔
      ∃ v, (evaluate text).value = .ok v := by
  constructor
  · intro h
    obtain ⟨report, h⟩ := h
    obtain ⟨evaluation, hevaluation, -⟩ := value_evaluateReport_eq_ok_iff.mp h
    refine ⟨evaluation.value, ?_⟩
    rw [evaluate, value_hideCause_eq_ok_iff, Fallible.map_eq_ok]
    exact ⟨evaluation, hevaluation, rfl⟩
  · intro h
    obtain ⟨v, h⟩ := h
    obtain ⟨evaluation, hevaluation, -⟩ := exists_evaluation_of_evaluate_eq_ok h
    exact ⟨_, value_evaluateReport_eq_ok_iff.mpr ⟨evaluation, hevaluation, rfl⟩⟩

/-- What a report says of a value. -/
structure Report.IsOf (report : Report) (v : Rat) (digits : Nat) : Prop where
  exact : report.exact = Reading.exact v
  reading : report.reading = Reading.decimal v digits

theorem Report.isOf_of_evaluate {text : String} {digits : Nat} {report : Report} {v : Rat}
    (hreport : (evaluateReport text digits).value = .ok report)
    (hvalue : (evaluate text).value = .ok v) : report.IsOf v digits := by
  obtain ⟨evaluation, hevaluation, rfl⟩ := value_evaluateReport_eq_ok_iff.mp hreport
  obtain ⟨evaluation', hevaluation', rfl⟩ := exists_evaluation_of_evaluate_eq_ok hvalue
  rw [hevaluation] at hevaluation'
  obtain rfl := Except.ok.inj hevaluation'
  exact ⟨rfl, rfl⟩

theorem BadRequest.eq_error_of_not_ok {α : Type} {x : Except BadRequest α}
    (h : ¬ ∃ a, x = .ok a) : x = .error .badRequest := by
  cases x with
  | ok a => exact absurd ⟨a, rfl⟩ h
  | error refusal => rfl

namespace Response

theorem status_ofResult_eq_okStatus_iff {result : Except BadRequest Answer} :
    (ofResult result).status = okStatus ↔ ∃ answer, result = .ok answer := by
  cases result with
  | ok answer => simp [ofResult]
  | error refusal => simp [ofResult, okStatus, BadRequest.status]

end Response

namespace Service

variable {settings : Settings} {text : String}

/-- The body of the one refusal. -/
def refusalBody : String :=
  "\x7b\"statusCode\":400,\"message\":\"Invalid expression provided\",\"error\":\"Bad Request\"\x7d"

theorem ofResult_badRequest : Response.ofResult (.error .badRequest) = ⟨400, refusalBody⟩ := by
  decide

/-- The expression is not too long and has the value. -/
structure Accepts (settings : Settings) (text : String) (v : Rat) : Prop where
  within : text.utf8ByteSize ≤ settings.lengthLimit
  evaluates : (ExactCalc.evaluate text).value = .ok v

theorem value_withinLimit_eq_ok_iff {α : Type} {run : Traced (Except InvalidExpression α)} {a : α} :
    (withinLimit settings text run).value = .ok a ↔
      text.utf8ByteSize ≤ settings.lengthLimit ∧ run.value = .ok a := by
  unfold withinLimit
  split
  · next hlong => simp [Nat.not_le.mpr hlong]
  · next hshort => simp [Fallible.mapError_eq_ok, Nat.not_lt.mp hshort]

theorem value_evaluate_eq_ok_iff {v : Rat} :
    (evaluate settings text).value = .ok v ↔ Accepts settings text v := by
  rw [evaluate, value_withinLimit_eq_ok_iff]
  constructor
  · intro h
    exact ⟨h.1, h.2⟩
  · intro h
    exact ⟨h.within, h.evaluates⟩

theorem exists_toAnswer_eq_ok {v : Rat} (h : Accepts settings text v) :
    ∃ answer, toAnswer v = .ok answer := by
  obtain ⟨answer, hanswer⟩ :=
    Answer.exists_ofRat?_eq_some (isInRange_of_evaluate_eq_ok h.evaluates)
  exact ⟨answer, by rw [toAnswer, hanswer]⟩

theorem value_calculate_eq_ok_iff {answer : Answer} :
    (calculate settings (.ofText text)).value = .ok answer ↔
      ∃ v, Accepts settings text v ∧ toAnswer v = .ok answer := by
  have hvalue : (calculate settings (.ofText text)).value =
      (evaluate settings text).value >>= toAnswer := rfl
  simp only [hvalue, Fallible.bind_eq_ok, value_evaluate_eq_ok_iff]

/-- The answer fails for no value, so a request is refused only if its expression is. -/
theorem exists_calculate_eq_ok_iff :
    (∃ answer, (calculate settings (.ofText text)).value = .ok answer) ↔
      ∃ v, Accepts settings text v := by
  constructor
  · intro h
    obtain ⟨answer, h⟩ := h
    obtain ⟨v, haccepts, -⟩ := value_calculate_eq_ok_iff.mp h
    exact ⟨v, haccepts⟩
  · intro h
    obtain ⟨v, haccepts⟩ := h
    obtain ⟨answer, hanswer⟩ := exists_toAnswer_eq_ok haccepts
    exact ⟨answer, value_calculate_eq_ok_iff.mpr ⟨v, haccepts, hanswer⟩⟩

theorem status_respond_eq_okStatus_iff :
    (respond settings (.ofText text)).value.status = Response.okStatus ↔
      ∃ v, Accepts settings text v := by
  rw [← exists_calculate_eq_ok_iff]
  exact Response.status_ofResult_eq_okStatus_iff

theorem exists_accepts_iff :
    (∃ v, Accepts settings text v) ↔
      text.utf8ByteSize ≤ settings.lengthLimit ∧
        ∃ v, (ExactCalc.evaluate text).value = .ok v := by
  constructor
  · intro h
    obtain ⟨v, haccepts⟩ := h
    exact ⟨haccepts.within, v, haccepts.evaluates⟩
  · intro h
    obtain ⟨hwithin, v, hevaluates⟩ := h
    exact ⟨v, hwithin, hevaluates⟩

theorem exists_evaluateReport_eq_ok_iff {digits : Nat} :
    (∃ report, (evaluateReport settings text digits).value = .ok report) ↔
      ∃ v, Accepts settings text v := by
  rw [exists_accepts_iff]
  simp only [evaluateReport, value_withinLimit_eq_ok_iff, exists_and_left, exists_report_eq_ok_iff]

theorem calculate_eq_badRequest (h : ¬ ∃ v, Accepts settings text v) :
    (calculate settings (.ofText text)).value = .error .badRequest :=
  BadRequest.eq_error_of_not_ok (mt exists_calculate_eq_ok_iff.mp h)

theorem exists_value_respond_of_accepts {v : Rat} (h : Accepts settings text v) :
    ∃ answer, toAnswer v = .ok answer ∧
      (respond settings (.ofText text)).value = ⟨200, answer.text⟩ := by
  obtain ⟨answer, hanswer⟩ := exists_toAnswer_eq_ok h
  have hcalculate := value_calculate_eq_ok_iff.mpr ⟨v, h, hanswer⟩
  refine ⟨answer, hanswer, ?_⟩
  rw [respond, Traced.value_map, hcalculate]
  rfl

theorem value_respond_of_not_accepts (h : ¬ ∃ v, Accepts settings text v) :
    (respond settings (.ofText text)).value = ⟨400, refusalBody⟩ := by
  rw [respond, Traced.value_map, calculate_eq_badRequest h, ofResult_badRequest]

theorem evaluateReport_eq_badRequest (digits : Nat) (h : ¬ ∃ v, Accepts settings text v) :
    (evaluateReport settings text digits).value = .error .badRequest :=
  BadRequest.eq_error_of_not_ok (mt exists_evaluateReport_eq_ok_iff.mp h)

theorem isOf_of_accepts {digits : Nat} {report : Report} {v : Rat}
    (hreport : (evaluateReport settings text digits).value = .ok report)
    (h : Accepts settings text v) : report.IsOf v digits :=
  Report.isOf_of_evaluate (value_withinLimit_eq_ok_iff.mp hreport).2 h.evaluates

end Service

end ExactCalc
