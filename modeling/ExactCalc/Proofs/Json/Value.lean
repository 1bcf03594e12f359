import ExactCalc.Proofs.Json.Token

/-!
# Building values

The tokens a value is written with build the value, inside any containers and whatever tokens
follow. A text of a value denotes it therefore; a text that goes on behind a container denotes
nothing, and behind any other value it may go on as a number but never as a container.
-/

namespace ExactCalc.Json

namespace Builder

variable {tokens : List Token} {frames : List Frame}

theorem run?_cons (token : Token) (tokens : List Token) (builder : Builder) :
    run? (token :: tokens) builder = (step? builder token).bind (run? tokens) := by
  rw [run?, List.foldlM_cons]
  rfl

/-- Nothing follows a result. -/
theorem run?_done_ne_nil (v : Value) (h : tokens ≠ []) : run? tokens (done v) = none := by
  obtain ⟨token, tokens, rfl⟩ := List.exists_cons_of_ne_nil h
  rw [run?_cons]
  rfl

/-- The first element of an array is built like any value in it. -/
theorem run?_firstElement (v : Value) (rest : List Token) (frames : List Frame) :
    run? (v.tokens ++ rest) (firstElement frames) =
      run? (v.tokens ++ rest) (value (.array [] :: frames)) := by
  cases v with
  | array elements => cases elements <;> rfl
  | object members => cases members <;> rfl
  | _ => rfl

mutual

/-- The tokens of a value complete it in the containers around. -/
theorem run?_tokens (v : Value) (rest : List Token) (frames : List Frame) :
    run? (v.tokens ++ rest) (value frames) = run? rest (complete v frames) := by
  match v with
  | .null | .bool _ | .number _ | .string _ | .array [] | .object [] => rfl
  | .array (v :: elements) =>
    have hnext := run?_nextElements elements [v] rest frames
    have hfirst := run?_tokens v (Value.nextElements elements ++ rest) (.array [] :: frames)
    rw [← run?_firstElement] at hfirst
    rw [Value.tokens, List.cons_append, List.append_assoc]
    exact hfirst.trans hnext
  | .object ((name, v) :: members) =>
    have hnext := run?_nextMembers members [(name, v)] rest frames
    have hfirst := run?_tokens v (Value.nextMembers members ++ rest) (.object [] name :: frames)
    rw [Value.tokens, List.cons_append, List.cons_append, List.cons_append, List.append_assoc]
    exact hfirst.trans hnext

/-- The elements are collected behind those before them, until the array is closed. -/
theorem run?_nextElements (elements before : List Value) (rest : List Token)
    (frames : List Frame) :
    run? (Value.nextElements elements ++ rest) (afterElement before frames) =
      run? rest (complete (.array (before.reverse ++ elements)) frames) := by
  match elements with
  | [] =>
    rw [List.append_nil]
    rfl
  | v :: elements =>
    have hnext := run?_nextElements elements (v :: before) rest frames
    have hfirst := run?_tokens v (Value.nextElements elements ++ rest) (.array before :: frames)
    rw [List.reverse_cons, List.append_assoc, List.singleton_append] at hnext
    rw [Value.nextElements, List.cons_append, List.append_assoc]
    exact hfirst.trans hnext

/-- The members are collected behind those before them, until the object is closed. -/
theorem run?_nextMembers (members before : List (StringLiteral × Value)) (rest : List Token)
    (frames : List Frame) :
    run? (Value.nextMembers members ++ rest) (afterMember before frames) =
      run? rest (complete (.object (before.reverse ++ members)) frames) := by
  match members with
  | [] =>
    rw [List.append_nil]
    rfl
  | (name, v) :: members =>
    have hnext := run?_nextMembers members ((name, v) :: before) rest frames
    have hfirst :=
      run?_tokens v (Value.nextMembers members ++ rest) (.object before name :: frames)
    rw [List.reverse_cons, List.append_assoc, List.singleton_append] at hnext
    rw [Value.nextMembers, List.cons_append, List.cons_append, List.cons_append, List.append_assoc]
    exact hfirst.trans hnext

end

end Builder

namespace Token

variable {token : Token} {tokens more : List Token}

theorem Separated.cons (hnumber : ¬ token.IsNumber) (h : Separated tokens) :
    Separated (token :: tokens) :=
  List.isChain_cons.mpr ⟨fun _ _ hboth ↦ hnumber hboth.1, h⟩

theorem Separated.append (h : Separated tokens) (hmore : Separated more)
    (hhead : ∀ token ∈ more.head?, ¬ token.IsNumber) : Separated (tokens ++ more) :=
  List.isChain_append.mpr ⟨h, hmore, fun _ _ next hnext hboth ↦ hhead next hnext hboth.2⟩

end Token

namespace Value

open Token (Separated Spaced)

theorem not_isNumber_head?_nextElements (elements : List Value) :
    ∀ token ∈ (nextElements elements).head?, ¬ token.IsNumber := by
  cases elements <;> simp [nextElements, Token.IsNumber]

theorem not_isNumber_head?_nextMembers (members : List (StringLiteral × Value)) :
    ∀ token ∈ (nextMembers members).head?, ¬ token.IsNumber := by
  cases members <;> simp [nextMembers, Token.IsNumber]

mutual

/-- A comma or a closing mark stands between the numbers of a value. A first element or member is
written like a next one, less its comma. -/
theorem separated_tokens (v : Value) : Separated v.tokens := by
  match v with
  | .null | .bool _ | .number _ | .string _ => exact List.isChain_singleton _
  | .array [] | .object [] => simp [tokens, Separated, Token.IsNumber]
  | .array (v :: elements) =>
    exact .cons (by simp [Token.IsNumber]) (separated_nextElements (v :: elements)).tail
  | .object (member :: members) =>
    exact .cons (by simp [Token.IsNumber]) (separated_nextMembers (member :: members)).tail

theorem separated_nextElements (elements : List Value) : Separated (nextElements elements) := by
  match elements with
  | [] => exact List.isChain_singleton _
  | v :: elements =>
    exact .cons (by simp [Token.IsNumber])
      ((separated_tokens v).append (separated_nextElements elements)
        (not_isNumber_head?_nextElements elements))

theorem separated_nextMembers (members : List (StringLiteral × Value)) :
    Separated (nextMembers members) := by
  match members with
  | [] => exact List.isChain_singleton _
  | (name, v) :: members =>
    exact .cons (by simp [Token.IsNumber]) (.cons (by simp [Token.IsNumber])
      (.cons (by simp [Token.IsNumber])
        ((separated_tokens v).append (separated_nextMembers members)
          (not_isNumber_head?_nextMembers members))))

end

theorem getLast?_nextElements (elements : List Value) :
    (nextElements elements).getLast? = some .closeBracket := by
  induction elements with
  | nil => rfl
  | cons v elements ih => simp [nextElements, List.getLast?_cons, ih]

theorem getLast?_nextMembers (members : List (StringLiteral × Value)) :
    (nextMembers members).getLast? = some .closeBrace := by
  induction members with
  | nil => rfl
  | cons member members ih => simp [nextMembers, List.getLast?_cons, ih]

/-- The value holds other values. -/
def IsContainer : Value → Prop
  | array _ => True
  | object _ => True
  | _ => False

theorem IsContainer.not_isNumber_getLast? {v : Value} (h : v.IsContainer) :
    ∀ token ∈ v.tokens.getLast?, ¬ token.IsNumber := by
  match v with
  | .array [] | .object [] => simp [tokens, Token.IsNumber]
  | .array (v :: elements) =>
    simp [tokens, List.getLast?_cons, getLast?_nextElements, Token.IsNumber]
  | .object ((name, v) :: members) =>
    simp [tokens, List.getLast?_cons, getLast?_nextMembers, Token.IsNumber]

/-- A value that is no container is one token, and no container begins with it. -/
theorem exists_tokens_eq_singleton {v : Value} (h : ¬ v.IsContainer) :
    ∃ token, v.tokens = [token] ∧ ¬ token.Opens := by
  cases v with
  | array _ => exact absurd trivial h
  | object _ => exact absurd trivial h
  | _ => exact ⟨_, rfl, by simp [Token.Opens]⟩

theorem string_mem_nextMembers {members : List (StringLiteral × Value)} {name : StringLiteral}
    {v : Value} (h : (name, v) ∈ members) :
    .string name ∈ nextMembers members ∧
      ∀ s, .string s ∈ v.tokens → .string s ∈ nextMembers members := by
  induction members with
  | nil => simp at h
  | cons member members ih =>
    rcases List.mem_cons.mp h with rfl | h
    · simp +contextual [nextMembers]
    · obtain ⟨hname, hstrings⟩ := ih h
      simp +contextual [nextMembers, hname, hstrings]

/-- The names in an object and the strings in its members are among its tokens. -/
theorem string_mem_tokens_object {members : List (StringLiteral × Value)} {name : StringLiteral}
    {v : Value} (h : (name, v) ∈ members) :
    .string name ∈ (object members).tokens ∧
      ∀ s, .string s ∈ v.tokens → .string s ∈ (object members).tokens := by
  cases members with
  | nil => simp at h
  | cons member members => simpa [tokens, nextMembers] using string_mem_nextMembers h

/-! ## Texts of values -/

variable {v w : Value} {text rest : List Char}

theorem ofTokens?_tokens (v : Value) : ofTokens? v.tokens = some v := by
  have hrun := Builder.run?_tokens v [] []
  rw [List.append_nil] at hrun
  rw [ofTokens?, hrun]
  rfl

theorem ofTokens?_tokens_append {tokens : List Token} (v : Value) (h : tokens ≠ []) :
    ofTokens? (v.tokens ++ tokens) = none := by
  rw [ofTokens?, Builder.run?_tokens, Builder.complete, Builder.run?_done_ne_nil v h]
  rfl

/-- A text of a value denotes it. -/
theorem IsWritten.ofText?_eq {s : String} (h : v.IsWritten s.toList) : ofText? s = some v := by
  have hscan : Token.scan? (s.toList ++ []) = _ :=
    h.scan?_append (separated_tokens v) (by simp [NumberLiteral.EndsNumber])
  rw [List.append_nil] at hscan
  rw [ofText?, hscan, Token.scan?, Option.map_some, Option.bind_some, List.append_nil,
    ofTokens?_tokens]

/-- Nothing but blanks may stand behind a container. -/
theorem IsWritten.ofText?_eq_none {s : String} (h : v.IsWritten text) (hv : v.IsContainer)
    (hs : s.toList = text ++ rest) (hrest : ∃ c ∈ rest, isBlank c = false) :
    ofText? s = none := by
  have hscan : Token.scan? (text ++ rest) = _ := h.scan?_append (separated_tokens v)
    fun token htoken hnumber ↦ absurd hnumber (hv.not_isNumber_getLast? token htoken)
  rw [ofText?, hs, hscan]
  cases hmore : Token.scan? rest with
  | none => rfl
  | some tokens =>
    have hne : tokens ≠ [] := by
      rintro rfl
      exact Token.scan?_ne_nil hrest hmore
    rw [Option.map_some, Option.bind_some, ofTokens?_tokens_append v hne]

/-- The strings in a written value denote their texts. -/
theorem IsWritten.denotes_of_text? {literal : StringLiteral} {s : String} (h : v.IsWritten text)
    (hmem : .string literal ∈ v.tokens) (hs : literal.text? = some s) :
    literal.Denotes s.toList := by
  obtain ⟨raw, hraw⟩ := h.exists_spells hmem
  exact hraw.text?_eq_some_iff.mp hs

theorem not_isContainer_of_ofTokens? {token : Token} {tokens : List Token}
    (hopens : ¬ token.Opens) (h : ofTokens? (token :: tokens) = some w) : ¬ w.IsContainer := by
  have hdone (v : Value) (hv : ¬ v.IsContainer)
      (hrun : (Builder.run? tokens (.done v)).bind Builder.result? = some w) :
      ¬ w.IsContainer := by
    cases tokens with
    | nil =>
      obtain rfl := Option.some.inj hrun
      exact hv
    | cons next tokens =>
      rw [Builder.run?_done_ne_nil v (List.cons_ne_nil next tokens)] at hrun
      contradiction
  rw [ofTokens?, Builder.run?_cons] at h
  cases token with
  | null => exact hdone .null id h
  | bool b => exact hdone (.bool b) id h
  | number n => exact hdone (.number n) id h
  | string s => exact hdone (.string s) id h
  | openBracket => exact absurd (.inl rfl) hopens
  | openBrace => exact absurd (.inr rfl) hopens
  | _ => contradiction

/-- A text that begins like a value that is no container denotes no container. -/
theorem IsWritten.not_isContainer_of_ofText? {s : String} (h : v.IsWritten text)
    (hv : ¬ v.IsContainer) (hs : s.toList = text ++ rest) (hw : ofText? s = some w) :
    ¬ w.IsContainer := by
  obtain ⟨token, htokens, hopens⟩ := exists_tokens_eq_singleton hv
  rw [IsWritten, htokens] at h
  obtain _ | ⟨isBlank, spells, _⟩ := h
  obtain ⟨c, tail, rfl, hc, hopen⟩ := spells.exists_cons
  rw [ofText?, hs, List.append_assoc, List.append_assoc, Token.scan?_append_of_isBlank isBlank,
    List.cons_append, Token.scan?, if_neg (by simp [hc])] at hw
  split at hw
  · contradiction
  · next hread =>
    have hfirst := Token.not_opens_of_read? (mt hopen hopens) hread
    obtain ⟨tokens, hscan, hw⟩ := Option.bind_eq_some_iff.mp hw
    obtain ⟨after, -, rfl⟩ := Option.map_eq_some_iff.mp hscan
    exact not_isContainer_of_ofTokens? hfirst hw

end Value

end ExactCalc.Json
