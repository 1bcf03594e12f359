import ExactCalc.Proofs.Request
import ExactCalc.Proofs.Service.Acceptance

/-!
# Answers to bodies

A body is answered like the text that it carries, whatever else stands around and however the text
is escaped. A body that carries none, or goes on behind its value, gets the one refusal. How the
refusal of an unreadable body is explained in the trace makes no difference to the answer.

What follows a number may carry it on, so of the values only a container is sure to be read as it
stands before something else; but a body that does not begin with a container is no request anyhow.
-/

namespace ExactCalc.Service

open Json (StringLiteral Value)
open Json.StringLiteral (IsHexDigit spells_plain denotes_plain)
open Json.Token (Spells Spaced)
open Request (Carries IsFieldName Member)

variable {settings : Settings} {explain : String → String} {body : String} {v : Value}
  {text : String}

theorem respondToBody_of_carries (hwritten : v.IsWritten body.toList) (h : Carries v text) :
    respondToBody settings explain body = respond settings (.ofText text) := by
  have hbody : Request.ofBody explain body = .ok (.ofText text) := by
    rw [Request.ofBody_eq_ok_iff, Request.ofBody?, hwritten.ofText?_eq, Option.bind_some,
      h.ofJson?_eq]
  rw [respondToBody, hbody]

theorem value_respond_of_no_text {request : Request} (h : request.text? = none) :
    (respond settings request).value = ⟨400, refusalBody⟩ := by
  rw [respond, Traced.value_map, calculate_of_text?_eq_none h, Traced.value_logged,
    ofResult_badRequest]

/-- A body that asks for no text is refused, be it a request or not. -/
theorem value_respondToBody_of_no_text
    (h : ∀ text, Request.ofBody? body ≠ some (.ofText text)) :
    (respondToBody settings explain body).value = ⟨400, refusalBody⟩ := by
  rw [respondToBody]
  cases hbody : Request.ofBody explain body with
  | error error => exact ofResult_badRequest
  | ok request =>
    apply value_respond_of_no_text
    rw [Request.text?_eq_none_iff]
    rintro text rfl
    exact h text (Request.ofBody_eq_ok_iff.mp hbody)

theorem value_respondToBody_of_not_carries (hwritten : v.IsWritten body.toList)
    (h : ∀ text, ¬ Carries v text) :
    (respondToBody settings explain body).value = ⟨400, refusalBody⟩ := by
  apply value_respondToBody_of_no_text
  intro text hbody
  rw [Request.ofBody?, hwritten.ofText?_eq, Option.bind_some] at hbody
  exact h text (Request.carries_of_ofJson? hwritten hbody)

/-- Only blanks may follow the value of a body. -/
theorem value_respondToBody_of_trailing {front rest : List Char} (hwritten : v.IsWritten front)
    (hbody : body.toList = front ++ rest) (hrest : ∃ c ∈ rest, Json.isBlank c = false) :
    (respondToBody settings explain body).value = ⟨400, refusalBody⟩ := by
  apply value_respondToBody_of_no_text
  intro text hrequest
  obtain ⟨w, hw, hrequest⟩ := Option.bind_eq_some_iff.mp hrequest
  have hcontainer := Request.isContainer_of_ofJson? hrequest
  by_cases hv : v.IsContainer
  · rw [hwritten.ofText?_eq_none hv hbody hrest] at hw
    contradiction
  · exact hwritten.not_isContainer_of_ofText? hv hbody hw hcontainer

/-- A body that carries a text is answered like it. A body that carries none, such as an object
without the field or with two of them, is refused, and so is one that goes on behind its value. -/
theorem respondToBody_follows_carried_text (settings : Settings) (explain : String → String)
    (body : String) :
    (∀ v text, Value.IsWritten v body.toList → Carries v text →
      respondToBody settings explain body = respond settings (.ofText text)) ∧
    (∀ v, Value.IsWritten v body.toList → (∀ text, ¬ Carries v text) →
      (respondToBody settings explain body).value = ⟨400, refusalBody⟩) ∧
    (∀ members : List Member, (Value.object members).IsWritten body.toList →
      ((∀ member ∈ members, ¬ IsFieldName member.1) ∨
        ∃ first second, [first, second].Sublist members ∧
          IsFieldName first.1 ∧ IsFieldName second.1) →
      (respondToBody settings explain body).value = ⟨400, refusalBody⟩) ∧
    (∀ v front rest, Value.IsWritten v front → body.toList = front ++ rest →
      (∃ c ∈ rest, Json.isBlank c = false) →
      (respondToBody settings explain body).value = ⟨400, refusalBody⟩) := by
  refine ⟨?carried, ?notCarried, ?fields, ?trailing⟩
  case carried =>
    intro v text hwritten hcarries
    exact respondToBody_of_carries hwritten hcarries
  case notCarried =>
    intro v hwritten hnot
    exact value_respondToBody_of_not_carries hwritten hnot
  case fields =>
    intro members hwritten hfields
    apply value_respondToBody_of_not_carries hwritten
    intro text
    rcases hfields with hnone | ⟨first, second, htwo, hfirst, hsecond⟩
    · exact Request.not_carries_of_no_field hnone
    · exact Request.not_carries_of_two_fields htwo hfirst hsecond
  case trailing =>
    intro v front rest hwritten hbody hrest
    exact value_respondToBody_of_trailing hwritten hbody hrest

theorem isWritten_of_spaced {spelled : List Char} (h : Spaced spelled v.tokens)
    (hbody : body.toList = spelled) : v.IsWritten body.toList := by
  rw [hbody]
  exact h

/-- A member of an object, with no blanks around its colon. -/
theorem spaced_member {spelledName spelled : List Char} {name : StringLiteral}
    {tokens : List Json.Token} (hname : StringLiteral.Spells spelledName name)
    (hvalue : Spaced spelled tokens) :
    Spaced (('"' :: (spelledName ++ ['"'])) ++ ([':'] ++ spelled))
      (.string name :: .colon :: tokens) := by
  have hcolon := Spells.colon.spaced.append hvalue
  exact (Spells.string hname).spaced.append hcolon

/-- A name with an escape behind another member, an empty object, and a word behind an array. -/
theorem respondToBody_of_escaped_missing_and_trailing :
    respondToBody {} id "\x7b\"n\": [null] ,\"\\u0065xpression\":\"1/3\"\x7d" =
        respond {} (.ofText "1/3") ∧
      (respondToBody {} id "\x7b\x7d").value = ⟨400, refusalBody⟩ ∧
      (respondToBody {} id "[\"1\"] x").value = ⟨400, refusalBody⟩ := by
  refine ⟨?carried, ?missing, ?trailing⟩
  case carried =>
    have hblank : Spaced [' '] [] := .nil (by simp [Json.isBlank])
    have hn : StringLiteral.Spells "n".toList _ := spells_plain (by decide)
    have harray := Spells.null.spaced.append Spells.closeBracket.spaced
    have hfirst :=
      spaced_member hn (hblank.append (Spells.openBracket.spaced.append (harray.append hblank)))
    have h0 : IsHexDigit '0' 0 := ⟨by decide, .inl rfl⟩
    have h6 : IsHexDigit '6' 6 := ⟨by decide, .inl rfl⟩
    have h5 : IsHexDigit '5' 5 := ⟨by decide, .inl rfl⟩
    have hrest : StringLiteral.Spells "xpression".toList _ := spells_plain (by decide)
    have hname := StringLiteral.Spells.unit h0 h0 h6 h5 hrest
    have hthird : StringLiteral.Spells "1/3".toList _ := spells_plain (by decide)
    have hsecond := (spaced_member hname (Spells.string hthird).spaced).append
      Spells.closeBrace.spaced
    have hspaced := Spells.openBrace.spaced.append
      (hfirst.append (Spells.comma.spaced.append hsecond))
    have hcarries : Carries (.object ([("n".toList.map .char, .array [.null])] ++
        (.unit 0x65 :: "xpression".toList.map .char, .string ("1/3".toList.map .char)) :: []))
        "1/3" := by
      apply Carries.member
      · have hfield : Request.fieldName.toList = Char.ofNat 0x65 :: "xpression".toList := by decide
        rw [IsFieldName, hfield]
        exact .unit (by decide) (by decide) (by decide) (denotes_plain _)
      · exact denotes_plain _
      · intro other hother
        obtain rfl := List.mem_singleton.mp hother
        exact ⟨"n", denotes_plain _, by decide⟩
    apply (respondToBody_follows_carried_text {} id _).1 _ _ _ hcarries
    exact isWritten_of_spaced hspaced (by decide)
  case missing =>
    have hspaced := Spells.openBrace.spaced.append Spells.closeBrace.spaced
    have hwritten : Value.IsWritten (.object []) "\x7b\x7d".toList :=
      isWritten_of_spaced hspaced (by decide)
    exact (respondToBody_follows_carried_text {} id _).2.2.1 [] hwritten (.inl (by simp))
  case trailing =>
    have hone : StringLiteral.Spells "1".toList _ := spells_plain (by decide)
    have helement := (Spells.string hone).spaced.append Spells.closeBracket.spaced
    have hwritten : Value.IsWritten (.array [.string ("1".toList.map .char)]) _ :=
      Spells.openBracket.spaced.append helement
    exact (respondToBody_follows_carried_text {} id _).2.2.2 _ _ [' ', 'x'] hwritten (by decide)
      ⟨'x', by decide, by decide⟩

/-- A member of another name is not ignored when its name has a surrogate that is not paired. -/
theorem unpaired_name_refused :
    ¬ ∀ (settings : Settings) (explain : String → String) (body : String)
      (before after : List Member) (name literal : StringLiteral) (text : String),
      (Value.object (before ++ (name, .string literal) :: after)).IsWritten body.toList →
      IsFieldName name → literal.Denotes text.toList →
      (∀ other ∈ before ++ after, ¬ IsFieldName other.1) →
      respondToBody settings explain body = respond settings (.ofText text) := by
  intro h
  have hd : IsHexDigit 'd' 13 := ⟨by decide, .inl rfl⟩
  have h8 : IsHexDigit '8' 8 := ⟨by decide, .inl rfl⟩
  have h0 : IsHexDigit '0' 0 := ⟨by decide, .inl rfl⟩
  have hlone := StringLiteral.Spells.unit hd h8 h0 h0 .nil
  have hname : StringLiteral.Spells Request.fieldName.toList _ := spells_plain (by decide)
  have hone : StringLiteral.Spells "1".toList _ := spells_plain (by decide)
  have hfirst := spaced_member hname (Spells.string hone).spaced
  have hsecond := (spaced_member hlone Spells.null.spaced).append Spells.closeBrace.spaced
  have hspaced := Spells.openBrace.spaced.append (hfirst.append (Spells.comma.spaced.append hsecond))
  have hwritten : Value.IsWritten (.object ([] ++
      (Request.fieldName.toList.map .char, .string ("1".toList.map .char)) ::
        [([.unit 0xD800], .null)])) "\x7b\"expression\":\"1\",\"\\ud800\":null\x7d".toList :=
    isWritten_of_spaced hspaced (by decide)
  have hother : ∀ other ∈ [] ++ [(([.unit 0xD800], .null) : Member)], ¬ IsFieldName other.1 := by
    intro other hother hfield
    obtain rfl := List.mem_singleton.mp hother
    exact absurd hfield.text?_eq (by decide)
  have hanswer := h {} id _ _ _ _ _ "1" hwritten (denotes_plain _) (denotes_plain _) hother
  have hbody : Request.ofBody? "\x7b\"expression\":\"1\",\"\\ud800\":null\x7d" = none := by
    rw [Request.ofBody?, hwritten.ofText?_eq]
    rfl
  have hrefused : (respondToBody {} id "\x7b\"expression\":\"1\",\"\\ud800\":null\x7d").value =
      ⟨400, refusalBody⟩ := by
    apply value_respondToBody_of_no_text
    rw [hbody]
    simp
  have hok : (respond {} (.ofText "1")).value.status = 200 := by decide +kernel
  rw [← hanswer, hrefused] at hok
  contradiction

end ExactCalc.Service
