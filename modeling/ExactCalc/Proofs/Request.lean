import ExactCalc.Proofs.Json.Value
import ExactCalc.Request

/-!
# Bodies of requests

A body carries a text when the text is the one field of an object or the one element of an array.
A value that is written somewhere is a request for a text exactly when it carries that text.
-/

namespace ExactCalc.Request

open Json (StringLiteral Value)

abbrev Member := StringLiteral × Value

def IsFieldName (name : StringLiteral) : Prop := name.Denotes fieldName.toList

/-- The name is a text, but not that of the field. -/
def IsOtherName (name : StringLiteral) : Prop :=
  ∃ text : String, name.Denotes text.toList ∧ text ≠ fieldName

/-- Other members do not matter, as long as their names are texts. -/
inductive Carries : Value → String → Prop
  | member {before after : List Member} {name literal : StringLiteral} {text : String} :
      IsFieldName name → literal.Denotes text.toList →
      (∀ other ∈ before ++ after, IsOtherName other.1) →
      Carries (.object (before ++ (name, .string literal) :: after)) text
  | element {literal : StringLiteral} {text : String} :
      literal.Denotes text.toList → Carries (.array [.string literal]) text

/-- The name and the value of every member, if the names are texts. -/
def named? (members : List Member) : Option (List (String × Value)) :=
  members.mapM fun (name, v) ↦ name.text?.map (·, v)

/-- The values of the members of the field's name, if the names of all members are texts. -/
def fields? (members : List Member) : Option (List Value) :=
  (named? members).map fun named ↦ (named.filter (·.1 = fieldName)).map Prod.snd

theorem ofMembers?_eq (members : List Member) :
    ofMembers? members = (fields? members).bind fun
      | [] => some empty
      | [field] => ofField? field
      | _ => none := by
  rw [fields?, Option.bind_map]
  refine congrArg (Option.bind (named? members)) (funext fun named ↦ ?_)
  dsimp only [Function.comp]
  generalize named.filter (·.1 = fieldName) = fields
  rcases fields with _ | ⟨first, _ | ⟨second, more⟩⟩ <;> rfl

theorem fields?_cons (name : StringLiteral) (v : Value) (members : List Member) :
    fields? ((name, v) :: members) = name.text?.bind fun text ↦
      (fields? members).map fun fields ↦ if text = fieldName then v :: fields else fields := by
  have hnamed : named? ((name, v) :: members) =
      name.text?.bind fun text ↦ (named? members).map ((text, v) :: ·) := by
    rw [named?, List.mapM_cons, Option.bind_eq_bind, Option.bind_map]
    refine congrArg (Option.bind name.text?) (funext fun text ↦ ?_)
    rw [Option.map_eq_bind]
    rfl
  rw [fields?, fields?, hnamed]
  cases name.text? with
  | none => rfl
  | some text =>
    cases named? members with
    | none => rfl
    | some named => by_cases h : text = fieldName <;> simp [h]

/-- The text of the name differs from that of the field. -/
def HasOtherText (name : StringLiteral) : Prop :=
  ∃ text, name.text? = some text ∧ text ≠ fieldName

theorem fields?_eq_nil_iff {members : List Member} :
    fields? members = some [] ↔ ∀ member ∈ members, HasOtherText member.1 := by
  induction members with
  | nil => exact iff_of_true rfl (by simp)
  | cons member members ih =>
    obtain ⟨name, v⟩ := member
    rw [List.forall_mem_cons, ← ih, fields?_cons, Option.bind_eq_some_iff]
    constructor
    · rintro ⟨text, htext, h⟩
      obtain ⟨fields, hfields, h⟩ := Option.map_eq_some_iff.mp h
      split at h
      · contradiction
      · next hother =>
        subst h
        exact ⟨⟨text, htext, hother⟩, hfields⟩
    · rintro ⟨⟨text, htext, hother⟩, hfields⟩
      exact ⟨text, htext, by rw [hfields, Option.map_some, if_neg hother]⟩

theorem fields?_eq_singleton_iff {members : List Member} {field : Value} :
    fields? members = some [field] ↔ ∃ before name after,
      members = before ++ (name, field) :: after ∧ name.text? = some fieldName ∧
        ∀ other ∈ before ++ after, HasOtherText other.1 := by
  induction members with
  | nil => exact iff_of_false (by simp [fields?, named?]) (by simp)
  | cons member members ih =>
    obtain ⟨name, v⟩ := member
    rw [fields?_cons, Option.bind_eq_some_iff]
    constructor
    · rintro ⟨text, htext, h⟩
      obtain ⟨fields, hfields, h⟩ := Option.map_eq_some_iff.mp h
      split at h
      · next heq =>
        obtain ⟨rfl, rfl⟩ := List.cons.inj h
        exact ⟨[], name, members, rfl, heq ▸ htext, fields?_eq_nil_iff.mp hfields⟩
      · next hother =>
        subst h
        obtain ⟨before, found, after, rfl, hfound, hothers⟩ := ih.mp hfields
        exact ⟨(name, v) :: before, found, after, rfl, hfound,
          List.forall_mem_cons.mpr ⟨⟨text, htext, hother⟩, hothers⟩⟩
    · rintro ⟨before, found, after, hsplit, hfound, hothers⟩
      cases before with
      | nil =>
        obtain ⟨hmember, rfl⟩ := List.cons.inj hsplit
        obtain ⟨rfl, rfl⟩ := Prod.mk.inj hmember
        have hfields := fields?_eq_nil_iff.mpr hothers
        rw [List.nil_append] at hfields
        exact ⟨fieldName, hfound, by rw [hfields, Option.map_some, if_pos rfl]⟩
      | cons other before =>
        obtain ⟨rfl, rfl⟩ := List.cons.inj hsplit
        obtain ⟨⟨text, htext, hother⟩, hothers⟩ := List.forall_mem_cons.mp hothers
        have hfields := ih.mpr ⟨before, found, after, rfl, hfound, hothers⟩
        exact ⟨text, htext, by rw [hfields, Option.map_some, if_neg hother]⟩

variable {v : Value} {text : String} {literal : StringLiteral} {request : Request}

/-- An object is a request for a text when its one field is a string that denotes the text. -/
theorem ofMembers?_eq_ofText_iff {members : List Member} :
    ofMembers? members = some (ofText text) ↔
      ∃ literal, fields? members = some [.string literal] ∧ literal.text? = some text := by
  rw [ofMembers?_eq, Option.bind_eq_some_iff]
  constructor
  · rintro ⟨fields, hfields, h⟩
    split at h
    · cases h
    · obtain ⟨literal, rfl, htext⟩ := ofField?_eq_ofText_iff.mp h
      exact ⟨literal, hfields, htext⟩
    · contradiction
  · rintro ⟨literal, hfields, htext⟩
    exact ⟨_, hfields, ofField?_eq_ofText_iff.mpr ⟨literal, rfl, htext⟩⟩

theorem IsOtherName.hasOtherText {name : StringLiteral} (h : IsOtherName name) :
    HasOtherText name := by
  obtain ⟨text, hdenotes, hother⟩ := h
  exact ⟨text, hdenotes.text?_eq, hother⟩

/-- A value that carries a text is a request for it. -/
theorem Carries.ofJson?_eq (h : Carries v text) : ofJson? v = some (ofText text) := by
  cases h with
  | element hdenotes => exact ofField?_eq_ofText_iff.mpr ⟨_, rfl, hdenotes.text?_eq⟩
  | @member before after name literal _ hname hdenotes hothers =>
    have hfields : fields? (before ++ (name, .string literal) :: after) =
        some [.string literal] :=
      fields?_eq_singleton_iff.mpr ⟨before, name, after, rfl, hname.text?_eq,
        fun other hother ↦ (hothers other hother).hasOtherText⟩
    exact ofMembers?_eq_ofText_iff.mpr ⟨literal, hfields, hdenotes.text?_eq⟩

/-- The one field of a written object is carried by it. -/
theorem carries_of_fields? {body : List Char} {members : List Member}
    (hwritten : (Value.object members).IsWritten body)
    (hfields : fields? members = some [.string literal]) (htext : literal.text? = some text) :
    Carries (.object members) text := by
  obtain ⟨before, name, after, rfl, hname, hothers⟩ := fields?_eq_singleton_iff.mp hfields
  have hdenotes {member : Member} {s : String}
      (hmem : member ∈ before ++ (name, .string literal) :: after)
      (hs : member.1.text? = some s) : member.1.Denotes s.toList :=
    hwritten.denotes_of_text? (Value.string_mem_tokens_object hmem).1 hs
  have hfield : (name, .string literal) ∈ before ++ (name, .string literal) :: after :=
    List.mem_append_right before List.mem_cons_self
  refine .member (hdenotes hfield hname) ?_ fun other hother ↦ ?_
  · exact hwritten.denotes_of_text?
      ((Value.string_mem_tokens_object hfield).2 literal List.mem_cons_self) htext
  · obtain ⟨found, hfound, hne⟩ := hothers other hother
    have hmem : other ∈ before ++ (name, .string literal) :: after := by
      rcases List.mem_append.mp hother with hbefore | hafter
      · exact List.mem_append_left _ hbefore
      · exact List.mem_append_right before (List.mem_cons_of_mem _ hafter)
    exact ⟨found, hdenotes hmem hfound, hne⟩

/-- A written value that is a request for a text carries it. -/
theorem carries_of_ofJson? {body : List Char} (hwritten : v.IsWritten body)
    (h : ofJson? v = some (ofText text)) : Carries v text := by
  unfold ofJson? at h
  split at h
  · cases h
  · obtain ⟨literal, rfl, htext⟩ := ofField?_eq_ofText_iff.mp h
    have hmem : .string literal ∈ (Value.array [.string literal]).tokens := by
      simp [Value.tokens]
    exact .element (hwritten.denotes_of_text? hmem htext)
  · obtain ⟨literal, hfields, htext⟩ := ofMembers?_eq_ofText_iff.mp h
    exact carries_of_fields? hwritten hfields htext
  · contradiction

/-- Only arrays and objects are requests. -/
theorem isContainer_of_ofJson? (h : ofJson? v = some request) : v.IsContainer := by
  cases v with
  | array _ => trivial
  | object _ => trivial
  | _ => contradiction

variable {members : List Member}

/-- The text of the name is that of the field. -/
def hasFieldText (member : Member) : Bool := member.1.text? = some fieldName

theorem hasFieldText_eq_true {member : Member} (h : IsFieldName member.1) :
    hasFieldText member = true :=
  decide_eq_true h.text?_eq

theorem hasFieldText_eq_false {member : Member} (h : IsOtherName member.1) :
    hasFieldText member = false := by
  obtain ⟨text, hdenotes, hne⟩ := h
  simpa [hasFieldText, hdenotes.text?_eq] using hne

theorem Carries.countP_eq_one (h : Carries (.object members) text) :
    members.countP hasFieldText = 1 := by
  cases h with
  | @member before after name literal _ hname _ hothers =>
    have hnone : (before ++ after).countP hasFieldText = 0 :=
      List.countP_eq_zero.mpr fun other hother ↦ by
        simp [hasFieldText_eq_false (hothers other hother)]
    have hone : hasFieldText (name, .string literal) = true := hasFieldText_eq_true hname
    rw [List.countP_append] at hnone ⊢
    rw [List.countP_cons_of_pos hone]
    omega

theorem not_carries_of_no_field (h : ∀ member ∈ members, ¬ IsFieldName member.1) :
    ¬ Carries (.object members) text := by
  intro hcarries
  cases hcarries with
  | member hname _ _ => exact h _ (List.mem_append_right _ List.mem_cons_self) hname

theorem not_carries_of_two_fields {first second : Member} (h : [first, second].Sublist members)
    (hfirst : IsFieldName first.1) (hsecond : IsFieldName second.1) :
    ¬ Carries (.object members) text := by
  intro hcarries
  have htwo : [first, second].countP hasFieldText = 2 := by
    simp [hasFieldText_eq_true hfirst, hasFieldText_eq_true hsecond]
  have hle : [first, second].countP hasFieldText ≤ members.countP hasFieldText := h.countP_le
  rw [htwo, hcarries.countP_eq_one] at hle
  contradiction

end ExactCalc.Request
