import ExactCalc.Proofs.Text.Word
import ExactCalc.Settings
import Mathlib.Algebra.Group.Nat.Defs

/-!
# Settings from outside

Each of the two settings follows a text of its own. A text counts if it holds the number of a word
between blanks, and that number is used if it is large enough for the setting. Any other text is
reported by one warning and is as good as none, so the setting keeps its standard value. No setting
depends on the text of the other one or on any text besides.
-/

namespace ExactCalc.Settings

/-- The texts that settings are read from. -/
inductive Variable
  | lengthLimit
  | digits
  deriving DecidableEq

namespace Variable

def key : Variable → String
  | lengthLimit => "CALC_LONGUEUR_MAX"
  | digits => "CALC_DIGITS"

/-- The setting without a text for it. -/
def standard : Variable → Nat
  | lengthLimit => 4096
  | digits => 20

/-- The least number that is used. -/
def least : Variable → Nat
  | lengthLimit => 1
  | digits => 0

/-- The setting for a number that is used. -/
def settingFor : Variable → Nat → Nat
  | lengthLimit, n => n
  | digits, n => min 200 n

def get (settings : Settings) : Variable → Nat
  | lengthLimit => settings.lengthLimit
  | digits => settings.digits

variable (v : Variable) (source : String → Option String)

/-- The text of the variable holds a number that is used. -/
def Uses (n : Nat) : Prop :=
  ∃ text, source v.key = some text ∧ Text.HoldsNumber text.toList n ∧ v.least ≤ n ∧ n < 2 ^ 64

/-- There is a text for the variable, but no number in it that is used. -/
def Ignores : Prop :=
  (∃ text, source v.key = some text) ∧ ∀ n, ¬ v.Uses source n

/-- A warning names the variable. It is about a zero, or it gives the text that holds no word. -/
inductive Warns : Event → Prop
  | zeroLimit {text : String} (h : source v.key = some text) (hzero : Text.HoldsNumber text.toList 0) :
    Warns (.zeroLimit v.key)
  | unreadable {text : String} (cause : Text.WordError) (h : source v.key = some text)
    (hword : ∀ n, Text.HoldsNumber text.toList n → 2 ^ 64 ≤ n) :
    Warns (.settingUnreadable v.key text cause)

theorem Warns.severity_eq {v : Variable} {source : String → Option String} {event : Event}
    (h : v.Warns source event) : event.severity = .warning := by
  cases h <;> rfl

/-- One warning is logged for a text that is ignored, and nothing otherwise. -/
structure Reports (events : List Event) : Prop where
  ignored : v.Ignores source →
    ∃ event, events = [event] ∧ event.severity = .warning ∧ v.Warns source event
  silent : ¬ v.Ignores source → events = []

/-- A number that is large enough is used; a zero for the limit is reported. -/
def accept : Variable → Option Nat → Traced (Option Nat)
  | lengthLimit, some 0 => .logged (.zeroLimit lengthKey) none
  | _, number => .silent number

/-- The number that is used, with the warnings on the way to it. -/
def read : Traced (Option Nat) :=
  (readWord? source v.key).bind v.accept

section Read

variable {v} {source} {text : String}

theorem read_of_absent (h : source v.key = none) : v.read source = .silent none := by
  cases v <;> simp only [read, readWord?, h] <;> rfl

theorem read_of_unreadable (h : source v.key = some text) {cause : Text.WordError}
    (hword : Text.readWord (Text.trimBlanks text.toList) = .error cause) :
    v.read source = .logged (.settingUnreadable v.key text cause) none := by
  cases v <;> simp only [read, readWord?, h, hword] <;> rfl

theorem read_of_word (h : source v.key = some text) {n : Nat}
    (hword : Text.readWord (Text.trimBlanks text.toList) = .ok n) :
    v.read source = v.accept (some n) := by
  simp only [read, readWord?, h, hword]
  rfl

theorem accept_zero_limit : lengthLimit.accept (some 0) = .logged (.zeroLimit lengthLimit.key) none :=
  rfl

theorem accept_of_least_le {n : Nat} (h : v.least ≤ n) : v.accept (some n) = .silent (some n) := by
  cases v with
  | lengthLimit =>
    obtain ⟨m, rfl⟩ := Nat.exists_eq_succ_of_ne_zero (Nat.one_le_iff_ne_zero.mp h)
    rfl
  | digits => rfl

/-- Only the limit has numbers that are too small, and among words only one. -/
theorem of_lt_least {n : Nat} (h : n < v.least) : v = lengthLimit ∧ n = 0 := by
  cases v with
  | lengthLimit => exact ⟨rfl, Nat.lt_one_iff.mp h⟩
  | digits => exact absurd h (Nat.not_lt_zero n)

theorem uses_iff {n : Nat} :
    v.Uses source n ↔ ∃ text, source v.key = some text ∧
      Text.readWord (Text.trimBlanks text.toList) = .ok n ∧ v.least ≤ n := by
  simp only [Uses, Text.readWord_trimBlanks_eq_ok_iff, and_assoc]
  exact exists_congr fun text ↦ and_congr_right fun _ ↦ and_congr_right fun _ ↦ and_comm

theorem read_of_uses {n : Nat} (h : v.Uses source n) : v.read source = .silent (some n) := by
  obtain ⟨text, hsource, hword, hleast⟩ := uses_iff.mp h
  rw [read_of_word hsource hword, accept_of_least_le hleast]

theorem read_of_ignores (h : v.Ignores source) :
    ∃ event, v.Warns source event ∧ v.read source = .logged event none := by
  obtain ⟨⟨text, hsource⟩, hunused⟩ := h
  cases hword : Text.readWord (Text.trimBlanks text.toList) with
  | error cause =>
    refine ⟨_, .unreadable cause hsource fun n hn ↦ ?_, read_of_unreadable hsource hword⟩
    by_contra hlt
    have hok := Text.readWord_trimBlanks_eq_ok_iff.mpr ⟨hn, Nat.not_le.mp hlt⟩
    rw [hword] at hok
    exact absurd hok nofun
  | ok n =>
    have hsmall : n < v.least := by
      by_contra hleast
      exact hunused n (uses_iff.mpr ⟨text, hsource, hword, Nat.not_lt.mp hleast⟩)
    obtain ⟨rfl, rfl⟩ := of_lt_least hsmall
    have hzero := (Text.readWord_trimBlanks_eq_ok_iff.mp hword).1
    exact ⟨_, .zeroLimit hsource hzero, by rw [read_of_word hsource hword, accept_zero_limit]⟩

end Read

theorem value_read_of_unused (h : ∀ n, ¬ v.Uses source n) : (v.read source).value = none := by
  cases hsource : source v.key with
  | none => rw [read_of_absent hsource, Traced.value_silent]
  | some text =>
    obtain ⟨event, -, hread⟩ := read_of_ignores ⟨⟨text, hsource⟩, h⟩
    rw [hread, Traced.value_logged]

theorem reports_read : v.Reports source (v.read source).events where
  ignored h := by
    obtain ⟨event, hwarns, hread⟩ := read_of_ignores h
    exact ⟨event, by rw [hread, Traced.events_logged], hwarns.severity_eq, hwarns⟩
  silent h := by
    cases hsource : source v.key with
    | none => rw [read_of_absent hsource, Traced.events_silent]
    | some text =>
      have huses : ∃ n, v.Uses source n := by
        by_contra hunused
        exact h ⟨⟨text, hsource⟩, not_exists.mp hunused⟩
      obtain ⟨n, hn⟩ := huses
      rw [read_of_uses hn, Traced.events_silent]

/-! ## Both variables -/

theorem lengthLimit_withLengthLimit (settings : Settings) (number : Option Nat) :
    (settings.withLengthLimit number).value.lengthLimit =
      (lengthLimit.accept number).value.getD settings.lengthLimit := by
  rcases number with _ | _ | n <;> rfl

theorem digits_withLengthLimit (settings : Settings) (number : Option Nat) :
    (settings.withLengthLimit number).value.digits = settings.digits := by
  rcases number with _ | _ | n <;> rfl

theorem events_withLengthLimit (settings : Settings) (number : Option Nat) :
    (settings.withLengthLimit number).events = (lengthLimit.accept number).events := by
  rcases number with _ | _ | n <;> rfl

theorem lengthLimit_withDigits (settings : Settings) (number : Option Nat) :
    (settings.withDigits number).lengthLimit = settings.lengthLimit := by
  cases number <;> rfl

theorem digits_withDigits (settings : Settings) (number : Option Nat) :
    (settings.withDigits number).digits =
      (number.map digits.settingFor).getD settings.digits := by
  cases number with
  | none => rfl
  | some n => exact Nat.min_comm n 200

theorem get_ofSource :
    v.get (ofSource source).value = ((v.read source).value.map v.settingFor).getD v.standard := by
  cases v with
  | lengthLimit =>
    rw [get, ofSource, Traced.value_bind, Traced.value_map, lengthLimit_withDigits,
      Traced.value_bind, lengthLimit_withLengthLimit]
    exact congrArg (Option.getD · 4096) Option.map_id'.symm
  | digits =>
    rw [get, ofSource, Traced.value_bind, Traced.value_map, digits_withDigits, Traced.value_bind,
      digits_withLengthLimit]
    rfl

theorem events_ofSource :
    (ofSource source).events = (lengthLimit.read source).events ++ (digits.read source).events := by
  have hdigits : (digits.read source).events = (readWord? source digitsKey).events := by
    rw [read, Traced.events_bind]
    exact List.append_nil _
  rw [ofSource, Traced.events_bind, Traced.events_bind, Traced.events_map,
    events_withLengthLimit, hdigits]
  rfl

variable {v} {source}

theorem get_of_uses {n : Nat} (h : v.Uses source n) :
    v.get (ofSource source).value = v.settingFor n := by
  rw [get_ofSource, read_of_uses h]
  rfl

theorem get_of_unused (h : ∀ n, ¬ v.Uses source n) :
    v.get (ofSource source).value = v.standard := by
  rw [get_ofSource, value_read_of_unused _ _ h]
  rfl

theorem get_ofSource_congr {source' : String → Option String}
    (h : source v.key = source' v.key) :
    v.get (ofSource source).value = v.get (ofSource source').value := by
  rw [get_ofSource, get_ofSource, read, read, readWord?, readWord?, h]

theorem one_le_lengthLimit (source : String → Option String) :
    1 ≤ (ofSource source).value.lengthLimit := by
  by_cases h : ∃ n, lengthLimit.Uses source n
  · obtain ⟨n, hn⟩ := h
    have hvalue : (ofSource source).value.lengthLimit = n := get_of_uses hn
    obtain ⟨-, -, -, hleast, -⟩ := hn
    rwa [hvalue]
  · have hvalue : (ofSource source).value.lengthLimit = 4096 := get_of_unused (not_exists.mp h)
    rw [hvalue]
    decide

theorem digits_le (source : String → Option String) : (ofSource source).value.digits ≤ 200 := by
  by_cases h : ∃ n, digits.Uses source n
  · obtain ⟨n, hn⟩ := h
    have hvalue : (ofSource source).value.digits = min 200 n := get_of_uses hn
    rw [hvalue]
    exact Nat.min_le_left 200 n
  · have hvalue : (ofSource source).value.digits = 20 := get_of_unused (not_exists.mp h)
    rw [hvalue]
    decide

end Variable

theorem ext_get {settings settings' : Settings}
    (h : ∀ v : Variable, v.get settings = v.get settings') : settings = settings' := by
  have hlimit : settings.lengthLimit = settings'.lengthLimit := h .lengthLimit
  have hdigits : settings.digits = settings'.digits := h .digits
  cases settings
  cases settings'
  simp_all

/-- The source without the text of one variable. -/
def without (v : Variable) (source : String → Option String) : String → Option String :=
  fun key ↦ if key = v.key then none else source key

theorem ofSource_without {v : Variable} {source : String → Option String} (h : v.Ignores source) :
    (ofSource (without v source)).value = (ofSource source).value := by
  have hkey : ∀ w : Variable, w ≠ v → w.key ≠ v.key := by
    intro w
    cases v <;> cases w <;> decide
  apply ext_get
  intro w
  by_cases hw : w = v
  · -- Neither the ignored text nor its absence is a number that is used.
    subst hw
    have habsent : ∀ n, ¬ w.Uses (without w source) n := by
      rintro n ⟨text, hsource, -⟩
      simp [without] at hsource
    rw [Variable.get_of_unused habsent, Variable.get_of_unused h.2]
  · exact Variable.get_ofSource_congr (if_neg (hkey w hw))

/-- A setting is the number between the blanks of its own text, if that number is large enough and
fits a word, and the standard otherwise. A text that is not used is reported once and changes
nothing. -/
theorem settings_follow_their_texts (source : String → Option String) :
    (∀ v : Variable,
      (∀ n, v.Uses source n → v.get (ofSource source).value = v.settingFor n) ∧
      ((∀ n, ¬ v.Uses source n) → v.get (ofSource source).value = v.standard)) ∧
    (1 ≤ (ofSource source).value.lengthLimit ∧ (ofSource source).value.digits ≤ 200) ∧
    (∀ (v : Variable) (source' : String → Option String), source v.key = source' v.key →
      v.get (ofSource source).value = v.get (ofSource source').value) ∧
    (∃ first second, (ofSource source).events = first ++ second ∧
      Variable.lengthLimit.Reports source first ∧ Variable.digits.Reports source second) ∧
    ∀ v : Variable, v.Ignores source →
      (ofSource (without v source)).value = (ofSource source).value := by
  refine ⟨?settings, ?bounds, ?own, ?reports, ?ignored⟩
  case settings =>
    intro v
    refine ⟨?_, Variable.get_of_unused⟩
    intro n huses
    exact Variable.get_of_uses huses
  case bounds => exact ⟨Variable.one_le_lengthLimit source, Variable.digits_le source⟩
  case own =>
    intro v source' hsame
    exact Variable.get_ofSource_congr hsame
  case reports =>
    exact ⟨_, _, Variable.events_ofSource source, Variable.reports_read .lengthLimit source,
      Variable.reports_read .digits source⟩
  case ignored =>
    intro v hignores
    exact ofSource_without hignores

/-- The least number that is no word is ignored; a number of digits that is too large is lowered. -/
theorem settings_follow_their_texts_beyond_words :
    let source : String → Option String := fun key ↦
      if key = "CALC_LONGUEUR_MAX" then some "18446744073709551616"
      else if key = "CALC_DIGITS" then some "\u2003+0250\n"
      else none
    let settings := (ofSource source).value
    (Variable.digits.Uses source 250 ∧ settings.digits = min 200 250) ∧
    Variable.lengthLimit.Ignores source ∧
      ((∀ n, ¬ Variable.lengthLimit.Uses source n) ∧ settings.lengthLimit = 4096) ∧
      (ofSource (without .lengthLimit source)).value = settings ∧
      ∃ first second, (ofSource source).events = first ++ second ∧
        Variable.lengthLimit.Reports source first ∧ Variable.digits.Reports source second := by
  intro source settings
  have huses : Variable.digits.Uses source 250 := by
    have hspells : Text.SpellsNumber ['+', '0', '2', '5', '0'] 250 :=
      ⟨['+'], ['0', '2', '5', '0'], rfl, .inr rfl, by decide, List.all_eq_true.mp (by decide),
        by decide⟩
    have hholds : Text.HoldsNumber "\u2003+0250\n".toList 250 :=
      ⟨['\u2003'], _, ['\n'], by decide, List.all_eq_true.mp (by decide),
        List.all_eq_true.mp (by decide), hspells⟩
    exact ⟨_, rfl, hholds, by decide, by decide⟩
  have hignores : Variable.lengthLimit.Ignores source := by
    refine ⟨⟨_, rfl⟩, fun n hn ↦ ?_⟩
    obtain ⟨text, hsource, hword, -⟩ := Variable.uses_iff.mp hn
    obtain rfl : text = "18446744073709551616" := (Option.some.inj hsource).symm
    have hnone :
        (Text.readWord (Text.trimBlanks "18446744073709551616".toList)).toOption = none := by
      decide +kernel
    rw [hword] at hnone
    exact absurd hnone nofun
  have hfollow := settings_follow_their_texts source
  exact ⟨⟨huses, (hfollow.1 .digits).1 250 huses⟩, hignores,
    ⟨hignores.2, (hfollow.1 .lengthLimit).2 hignores.2⟩, hfollow.2.2.2.2 .lengthLimit hignores,
    hfollow.2.2.2.1⟩

end ExactCalc.Settings
