import ExactCalc.CommandLine
import ExactCalc.Proofs.Decimal.Layout
import ExactCalc.Proofs.Service.Bodies
import ExactCalc.Proofs.Settings

/-!
# Runs of the command line

A text can be asked for as an argument or in a body. Both ways print the same line, the answer of
the service or its refusal, and the code tells which of them it is. The settings matter by the limit
of the length alone, which does not come from the text that sets the digits; the explanation of an
unreadable body stays in the trace.
-/

namespace ExactCalc

namespace Settings

/-- The limit is set by one text alone. -/
theorem lengthLimit_ofSource_congr {source source' : String → Option String}
    (h : source' lengthKey = source lengthKey) :
    (ofSource source').value.lengthLimit = (ofSource source).value.lengthLimit :=
  Variable.get_ofSource_congr (v := .lengthLimit) h

end Settings

theorem Answer.newline_notMem_text (answer : Answer) : '\n' ∉ answer.text.toList := by
  intro hmem
  have hchar : Text.IsNumeralChar '\n' := by
    cases answer with
    | whole n => exact Text.isNumeralChar_of_mem_intText hmem
    | double y =>
      rw [text, Decimal.text, String.toList_ofList] at hmem
      exact Decimal.isNumeralChar_of_mem_chars layout hmem
  exact absurd hchar (by simp [Text.IsNumeralChar])

theorem Service.newline_notMem_refusalBody : '\n' ∉ refusalBody.toList := by
  decide

namespace CommandLine

open Json (StringLiteral Value)
open Json.StringLiteral (spells_plain denotes_plain)
open Json.Token (Spells Spaced)
open Request (IsFieldName)

/-- One line is printed, and the run ends with the code. -/
structure Outcome.Prints (outcome : Outcome) (line : String) (code : Nat) : Prop where
  output : outcome.output = line ++ "\n"
  single : '\n' ∉ line.toList
  code : outcome.code = code

theorem run_congr_settings {settings settings' : Settings}
    (h : settings'.lengthLimit = settings.lengthLimit) (explain : String → String)
    (command : Command) : run settings' explain command = run settings explain command := by
  obtain ⟨limit, digits⟩ := settings
  obtain ⟨limit', digits'⟩ := settings'
  obtain rfl : limit' = limit := h
  cases command <;> rfl

theorem run_congr_explain (settings : Settings) (explain explain' : String → String)
    (command : Command) : run settings explain' command = run settings explain command := by
  cases command with
  | respond body =>
    have hvalue : (Service.respondToBody settings explain' body).value =
        (Service.respondToBody settings explain body).value := by
      unfold Service.respondToBody Request.ofBody
      cases Request.ofBody? body <;> rfl
    rw [run, run, hvalue]
  | _ => rfl

/-- The body is an object whose one member is the field with the text, escaped in any way. -/
def IsBodyOf (body text : String) : Prop :=
  ∃ name literal, IsFieldName name ∧ literal.Denotes text.toList ∧
    (Value.object [(name, .string literal)]).IsWritten body.toList

/-- The arguments ask for the text, which is one of them or in a body. -/
inductive AsksFor (text : String) : List String → Prop
  | short (further : List String) : AsksFor text ("-e" :: text :: further)
  | long (further : List String) : AsksFor text ("--eval" :: text :: further)
  | shortBody {body : String} (further : List String) :
      IsBodyOf body text → AsksFor text ("-j" :: body :: further)
  | longBody {body : String} (further : List String) :
      IsBodyOf body text → AsksFor text ("--json" :: body :: further)

variable {settings : Settings} {explain : String → String} {text body : String}
  {arguments : List String}

/-- The member is written in any spelling of its name and of the text, here without blanks. -/
theorem isBodyOf_of_spells {name literal : StringLiteral} {spelledName spelled : List Char}
    (hname : StringLiteral.Spells spelledName name) (hfield : IsFieldName name)
    (hspelled : StringLiteral.Spells spelled literal) (hdenotes : literal.Denotes text.toList)
    (hbody : body.toList =
      '\x7b' :: '"' :: (spelledName ++ '"' :: ':' :: '"' :: (spelled ++ ['"', '\x7d']))) :
    IsBodyOf body text := by
  have hmember := Service.spaced_member hname (Spells.string hspelled).spaced
  have hspaced := Spells.openBrace.spaced.append (hmember.append Spells.closeBrace.spaced)
  exact ⟨name, literal, hfield, hdenotes, Service.isWritten_of_spaced hspaced (by simp [hbody])⟩

/-- Every text has a body, whatever characters it is made of. -/
theorem exists_isBodyOf (text : String) : ∃ body, IsBodyOf body text := by
  obtain ⟨spelledName, name, hname, hfield⟩ :=
    StringLiteral.exists_spells_denotes Request.fieldName.toList
  obtain ⟨spelled, literal, hspelled, hdenotes⟩ := StringLiteral.exists_spells_denotes text.toList
  exact ⟨String.ofList _, isBodyOf_of_spells hname hfield hspelled hdenotes String.toList_ofList⟩

theorem IsBodyOf.respondToBody_eq (h : IsBodyOf body text) :
    Service.respondToBody settings explain body = Service.respond settings (.ofText text) := by
  obtain ⟨name, literal, hname, hdenotes, hwritten⟩ := h
  have hcarries : Request.Carries (.object ([] ++ (name, .string literal) :: [])) text :=
    .member hname hdenotes (by simp)
  exact Service.respondToBody_of_carries hwritten hcarries

/-- Whichever way a text is asked for, the run is that of the evaluation. -/
theorem AsksFor.run_eq (h : AsksFor text arguments) :
    run settings explain (Command.ofArguments arguments) =
      run settings explain (.evaluate text) := by
  cases h with
  | short | long => rfl
  | shortBody _ hbody | longBody _ hbody =>
    have hanswer : Service.respondToBody settings explain _ = _ := hbody.respondToBody_eq
    rw [run, ← hanswer]
    rfl

theorem prints_of_accepts {v : Rat} (h : Service.Accepts settings text v) :
    ∃ answer, Service.toAnswer v = .ok answer ∧
      (run settings explain (.evaluate text)).Prints answer.text 0 := by
  obtain ⟨answer, hanswer, hrespond⟩ := Service.exists_value_respond_of_accepts h
  refine ⟨answer, hanswer, ?_⟩
  rw [run, hrespond]
  exact ⟨rfl, answer.newline_notMem_text, rfl⟩

theorem prints_of_not_accepts (h : ¬ ∃ v, Service.Accepts settings text v) :
    (run settings explain (.evaluate text)).Prints Service.refusalBody 1 := by
  rw [run, Service.value_respond_of_not_accepts h]
  exact ⟨rfl, Service.newline_notMem_refusalBody, rfl⟩

theorem code_run_eq_zero_iff :
    (run settings explain (.evaluate text)).code = 0 ↔ ∃ v, Service.Accepts settings text v := by
  constructor
  · intro hcode
    by_contra hnot
    rw [(prints_of_not_accepts hnot).code] at hcode
    contradiction
  · intro h
    obtain ⟨v, haccepts⟩ := h
    obtain ⟨answer, -, hprints⟩ := prints_of_accepts haccepts
    exact hprints.code

/-- What a run that asks for a text tells of its evaluation. -/
structure Outcome.Tells (outcome : Outcome) (settings : Settings) (text : String) : Prop where
  code_iff : outcome.code = 0 ↔
    text.utf8ByteSize ≤ settings.lengthLimit ∧ ∃ v, (evaluate text).value = .ok v
  answer : ∀ v, text.utf8ByteSize ≤ settings.lengthLimit → (evaluate text).value = .ok v →
    ∃ answer, Service.toAnswer v = .ok answer ∧ outcome.Prints answer.text 0
  refusal : ¬ (text.utf8ByteSize ≤ settings.lengthLimit ∧ ∃ v, (evaluate text).value = .ok v) →
    outcome.Prints Service.refusalBody 1

theorem tells_run (settings : Settings) (explain : String → String) (text : String) :
    (run settings explain (.evaluate text)).Tells settings text where
  code_iff := code_run_eq_zero_iff.trans Service.exists_accepts_iff
  answer _ hwithin hvalue := prints_of_accepts ⟨hwithin, hvalue⟩
  refusal hnot := prints_of_not_accepts (mt Service.exists_accepts_iff.mp hnot)

/-- All ways to ask for a text end alike, with one line for its evaluation. The digits of a reading
and the explanation of an unreadable body have no part in what any run prints. -/
theorem asking_runs_agree (environment : String → Option String) (explain : String → String) :
    (∀ text, ∃ body, IsBodyOf body text) ∧
    (∀ text arguments arguments', AsksFor text arguments → AsksFor text arguments' →
      runWith environment explain arguments = runWith environment explain arguments') ∧
    (∀ text arguments, AsksFor text arguments →
      (runWith environment explain arguments).Tells (Settings.ofSource environment).value text) ∧
    (∀ environment' explain',
      (∀ key, key ≠ Settings.digitsKey → environment' key = environment key) →
      ∀ arguments, runWith environment' explain' arguments =
        runWith environment explain arguments) := by
  refine ⟨exists_isBodyOf, ?alike, ?tells, ?digits⟩
  case alike =>
    intro text arguments arguments' h h'
    rw [runWith, runWith, h.run_eq, h'.run_eq]
  case tells =>
    intro text arguments h
    rw [runWith, h.run_eq]
    exact tells_run _ explain text
  case digits =>
    intro environment' explain' hagree arguments
    have hlimit := Settings.lengthLimit_ofSource_congr (hagree Settings.lengthKey (by decide))
    rw [runWith, runWith, run_congr_settings hlimit, run_congr_explain _ explain explain']

/-- A third, written with an escape in a body, is as long as the limit allows; a root is longer. -/
theorem asking_runs_agree_third_and_overlong :
    let environment key := if key = Settings.lengthKey then some " 3" else none
    let body := "\x7b\"expression\":\"1\\/3\"\x7d"
    runWith environment id ["-j", body] = ⟨0, "0.3333333333333333\n", ""⟩ ∧
      (runWith environment id ["--eval", "√4", "more"]).Prints Service.refusalBody 1 ∧
      runWith (fun key ↦ if key = Settings.digitsKey then some "7" else environment key)
        String.toUpper ["-j", body] = ⟨0, "0.3333333333333333\n", ""⟩ := by
  intro environment body
  have hname : StringLiteral.Spells Request.fieldName.toList _ := spells_plain (by decide)
  have hthree : StringLiteral.Spells "3".toList _ := spells_plain (by decide)
  have hslash := StringLiteral.Spells.short (e := '/') (c := '/') (by decide) hthree
  have hspelled := StringLiteral.Spells.plain (c := '1') (by decide) (by decide) (by decide) hslash
  have hdenotes := StringLiteral.Denotes.char '1' (.char '/' (denotes_plain "3".toList))
  have hbody : IsBodyOf body "1/3" :=
    isBodyOf_of_spells hname (denotes_plain _) hspelled hdenotes (by decide)
  obtain ⟨-, hsame, htells, hdigits⟩ := asking_runs_agree environment id
  have hthird : runWith environment id ["-j", body] = ⟨0, "0.3333333333333333\n", ""⟩ := by
    rw [hsame "1/3" _ ["-e", "1/3"] (.shortBody [] hbody) (.short [])]
    decide +kernel
  refine ⟨hthird, ?overlong, ?digits⟩
  case overlong =>
    apply (htells "√4" _ (.long ["more"])).refusal
    intro h
    exact absurd h.1 (by decide)
  case digits =>
    rw [hdigits _ _ (fun key hkey ↦ if_neg hkey), hthird]

end CommandLine

end ExactCalc
