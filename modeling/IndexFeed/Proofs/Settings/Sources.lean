import IndexFeed.Proofs.Number.Digits
import IndexFeed.Proofs.Text.Cut
import IndexFeed.Settings.Source

/-! Settings come from one source as a whole: from the file if it holds any, or else from the
environment. -/
namespace IndexFeed

private theorem fromUTF8?_eq_some_iff {bytes : ByteArray} {text : String} :
    String.fromUTF8? bytes = some text ↔ bytes = text.toUTF8 := by
  constructor
  · intro hread
    rw [String.fromUTF8?] at hread
    split at hread
    · obtain rfl := Option.some.inj hread
      rfl
    · exact nomatch hread
  · rintro rfl
    exact dif_pos text.isValidUTF8

namespace Stored

private theorem ofBytes_eq_text_iff {bytes : ByteArray} {content : String} :
    ofBytes bytes = .text content ↔ bytes = content.toUTF8 := by
  rw [ofBytes, ← fromUTF8?_eq_some_iff]
  cases String.fromUTF8? bytes <;> simp

/-- Whether a file is a text from which these settings are read. -/
def Holds (file : Stored) (settings : Settings) : Prop :=
  ∃ content, file = .text content ∧ Json.readAs Settings.read? content = .ok settings

end Stored

namespace Settings

/-- Digits that write a number of 64 bits. -/
def WritesNumber (digits : List Char) (n : Nat) : Prop :=
  digits ≠ [] ∧ (∀ c ∈ digits, '0' ≤ c ∧ c ≤ '9') ∧ n = Text.decimal digits ∧ n < 2 ^ 64

/-- A number with white space around it, and a plus before it if any. -/
def WritesTimeout (value : String) (n : Nat) : Prop :=
  ∃ before sign digits after, value.toList = before ++ (sign ++ digits) ++ after ∧
    (∀ c ∈ before, Text.isBlank c = true) ∧ (∀ c ∈ after, Text.isBlank c = true) ∧
    (sign = [] ∨ sign = ['+']) ∧ WritesNumber digits n

private theorem number_eq_some_iff {digits : List Char} {n : Nat} :
    (if digits ≠ [] ∧ digits.all Char.isDigit then
      if Nat.ofDigitChars 10 digits 0 < Nat.pow 2 64 then some (Nat.ofDigitChars 10 digits 0) else none
    else none) = some n ↔ WritesNumber digits n := by
  rw [Text.ofDigitChars_eq_decimal, Option.ite_none_right_eq_some, Option.ite_none_right_eq_some,
    and_assoc, WritesNumber]
  simp only [List.all_eq_true, Text.isDigit_iff]
  refine and_congr_right fun _ => and_congr_right fun _ => ?_
  constructor
  · rintro ⟨hbound, hvalue⟩
    obtain rfl := Option.some.inj hvalue
    exact ⟨rfl, hbound⟩
  · rintro ⟨rfl, hbound⟩
    exact ⟨hbound, rfl⟩

private theorem timeoutOf?_eq_some_iff {text : List Char} {n : Nat} :
    timeoutOf? text = some n ↔ ∃ sign digits, text = sign ++ digits ∧ (sign = [] ∨ sign = ['+']) ∧
      WritesNumber digits n := by
  constructor
  · intro hread
    rw [timeoutOf?.eq_def] at hread
    dsimp only at hread
    split at hread
    · exact ⟨['+'], _, rfl, .inr rfl, number_eq_some_iff.mp hread⟩
    · exact ⟨[], _, rfl, .inl rfl, number_eq_some_iff.mp hread⟩
  · rintro ⟨sign, digits, rfl, rfl | rfl, hwrites⟩
    · rw [timeoutOf?]
      · exact number_eq_some_iff.mpr hwrites
      · rintro rest rfl
        exact absurd (hwrites.2.1 '+' List.mem_cons_self) (by decide)
    · exact number_eq_some_iff.mpr hwrites

private theorem digit_not_blank {c : Char} (hdigit : c.isDigit = true) : Text.isBlank c = false := by
  obtain ⟨hlow, hhigh⟩ := Text.digit_range hdigit
  simp only [Text.isBlank, Bool.or_eq_false_iff, Bool.and_eq_false_iff, decide_eq_false_iff_not,
    beq_eq_false_iff_ne]
  omega

private theorem timeoutOf?_trim_eq_some_iff {value : String} {n : Nat} :
    timeoutOf? (Text.trim value).toList = some n ↔ WritesTimeout value n := by
  rw [timeoutOf?_eq_some_iff, Text.trim, String.toList_ofList]
  constructor
  · rintro ⟨sign, digits, htrimmed, hsigned, hwrites⟩
    obtain ⟨before, after, hwhole, hblank, hblank'⟩ := Text.exists_trimBy Text.isBlank value.toList
    rw [htrimmed] at hwhole
    exact ⟨before, sign, digits, after, hwhole, hblank, hblank', hsigned, hwrites⟩
  · rintro ⟨before, sign, digits, after, hwhole, hblank, hblank', hsigned, hwrites⟩
    refine ⟨sign, digits, ?_, hsigned, hwrites⟩
    rw [hwhole]
    refine Text.trimBy_append hblank hblank' (by simp [hwrites.1]) ?_
    refine List.forall_mem_append.mpr ⟨?_, fun c hmem => ?_⟩
    · rcases hsigned with rfl | rfl
      · exact fun _ hmem => absurd hmem List.not_mem_nil
      · exact List.forall_mem_singleton.mpr rfl
    · exact digit_not_blank ((Text.isDigit_iff c).mpr (hwrites.2.1 c hmem))

/-- White space alone writes no timeout, so that it has not to be told apart. -/
theorem timeoutFrom_eq (environment : Environment) :
    (timeoutFrom environment).1 = ((environment timeoutVariable).bind fun value =>
      timeoutOf? (Text.trim value).toList).getD defaultTimeout := by
  rw [timeoutFrom, textOf?]
  cases environment timeoutVariable with
  | none => rfl
  | some value =>
    by_cases hblank : Text.trim value = ""
    · have hskipped : (some value).filter (fun value => Text.trim value ≠ "") = none := by simp [hblank]
      rw [hskipped, Option.bind_some, hblank]
      rfl
    · have hkept : (some value).filter (fun value => Text.trim value ≠ "") = some value := by
        simp [hblank]
      rw [hkept, Option.bind_some]
      dsimp only
      cases timeoutOf? (Text.trim value).toList <;> rfl

end Settings

namespace Environment

variable {values : String → Option ByteArray} {name value : String}

private theorem ofBytes_eq_some_iff :
    ofBytes values name = some value ↔ values name = some value.toUTF8 := by
  rw [ofBytes, Option.bind_eq_some_iff]
  simp only [fromUTF8?_eq_some_iff]
  constructor
  · rintro ⟨bytes, hset, rfl⟩
    exact hset
  · exact fun hset => ⟨_, hset, rfl⟩

/-- A variable that is set to a text with more in it than white space. -/
def Sets (values : String → Option ByteArray) (name value : String) : Prop :=
  values name = some value.toUTF8 ∧ ∃ c ∈ value.toList, Text.isBlank c = false

private theorem textOf?_eq_some_iff :
    Settings.textOf? (ofBytes values) name = some value ↔ Sets values name value := by
  have hblank : Text.trim value ≠ "" ↔ ∃ c ∈ value.toList, Text.isBlank c = false := by
    rw [Text.trim, Ne, ← String.toList_inj, String.toList_ofList, String.toList_empty,
      Text.trimBy_eq_nil_iff]
    simp
  rw [Settings.textOf?, Option.filter_eq_some_iff, ofBytes_eq_some_iff, decide_eq_true_eq, hblank]
  rfl

/-- The settings that variables give: each as it is written where it is set, and else its default. -/
structure Describes (values : String → Option ByteArray) (settings : Settings) : Prop where
  host : Sets values "DOCSYNC_HOST" settings.host ∨
    (∀ value, ¬ Sets values "DOCSYNC_HOST" value) ∧ settings.host = "localhost:9200"
  index : ∀ value, settings.index = some value ↔ Sets values "DOCSYNC_INDEX" value
  type : ∀ value, settings.type = some value ↔ Sets values "DOCSYNC_TYPE" value
  timeout : (∃ value, values "DOCSYNC_TIMEOUT_SECS" = some value.toUTF8 ∧
      Settings.WritesTimeout value settings.timeout) ∨
    (∀ n value, values "DOCSYNC_TIMEOUT_SECS" = some value.toUTF8 →
      ¬ Settings.WritesTimeout value n) ∧ settings.timeout = 30

private theorem textOf?_eq_iff {text : Option String} :
    Settings.textOf? (ofBytes values) name = text ↔
      ∀ value, text = some value ↔ Sets values name value := by
  simp only [← textOf?_eq_some_iff]
  constructor
  · rintro rfl value
    exact Iff.rfl
  · intro hsame
    exact Option.ext fun value => (hsame value).symm

private theorem textOf?_getD_eq_iff {default text : String} :
    (Settings.textOf? (ofBytes values) name).getD default = text ↔
      Sets values name text ∨ (∀ value, ¬ Sets values name value) ∧ text = default := by
  simp only [Option.getD_eq_iff, Option.eq_none_iff_forall_ne_some, ← textOf?_eq_some_iff, Ne,
    eq_comm (a := default)]

private theorem timeoutFrom_eq_iff {n : Nat} :
    (Settings.timeoutFrom (ofBytes values)).1 = n ↔
      (∃ value, values Settings.timeoutVariable = some value.toUTF8 ∧ Settings.WritesTimeout value n) ∨
      (∀ n value, values Settings.timeoutVariable = some value.toUTF8 →
        ¬ Settings.WritesTimeout value n) ∧ n = Settings.defaultTimeout := by
  have hwritten (n : Nat) : ((ofBytes values Settings.timeoutVariable).bind fun value =>
      Settings.timeoutOf? (Text.trim value).toList) = some n ↔ ∃ value,
        values Settings.timeoutVariable = some value.toUTF8 ∧ Settings.WritesTimeout value n := by
    simp only [Option.bind_eq_some_iff, ofBytes_eq_some_iff, Settings.timeoutOf?_trim_eq_some_iff]
  rw [Settings.timeoutFrom_eq, Option.getD_eq_iff, hwritten, Option.eq_none_iff_forall_ne_some]
  simp only [Ne, hwritten, not_exists, not_and, eq_comm (a := Settings.defaultTimeout)]

/-- An environment gives the settings that its variables describe, and no others. -/
theorem fromEnvironment_eq_iff {settings : Settings} :
    (Settings.fromEnvironment (ofBytes values)).1 = settings ↔ Describes values settings := by
  obtain ⟨host, index, type, timeout⟩ := settings
  rw [Settings.fromEnvironment, Settings.mk.injEq, textOf?_getD_eq_iff, textOf?_eq_iff, textOf?_eq_iff,
    timeoutFrom_eq_iff]
  constructor
  · rintro ⟨hhost, hindex, htype, htimeout⟩
    exact ⟨hhost, hindex, htype, htimeout⟩
  · rintro ⟨hhost, hindex, htype, htimeout⟩
    exact ⟨hhost, hindex, htype, htimeout⟩

end Environment

namespace Settings

/-- A file from which settings are read decides them alone. -/
theorem load_of_holds {file : Stored} {settings : Settings} (hholds : file.Holds settings)
    (path : String) (environment : Environment) : (load path file environment).1 = settings := by
  obtain ⟨content, rfl, hread⟩ := hholds
  simp only [load, hread]

/-- Without such a file, the environment decides the settings alone. -/
theorem load_of_not_holds {file : Stored} (hwithout : ∀ settings, ¬ file.Holds settings) (path : String)
    (environment : Environment) :
    (load path file environment).1 = (fromEnvironment environment).1 := by
  cases file with
  | missing => rfl
  | unreadable => rfl
  | text content =>
    cases hread : Json.readAs read? content with
    | error fault => simp only [load, hread]
    | ok settings => exact absurd ⟨content, rfl, hread⟩ (hwithout settings)

/-- Settings are those of the file, whatever the environment is, where the file is a text from which
they are read; with any other file or without one they are those of the environment. Each of these is as
its variable has it, or the default where the variable is not set to a text or only to white space, and
for the timeout also where the text is more than a number of 64 bits. -/
theorem load_from_one_source (path : String) (file : Stored) (values : String → Option ByteArray) :
    (∀ settings, file.Holds settings → ∀ environment, (load path file environment).1 = settings) ∧
    ((∀ settings, ¬ file.Holds settings) → ∀ environment,
      (load path file environment).1 = (fromEnvironment environment).1 ∧
      ∀ other : Stored, (∀ settings, ¬ other.Holds settings) →
        (load path other environment).1 = (load path file environment).1) ∧
    (∀ settings, ¬ Stored.missing.Holds settings ∧ ¬ Stored.unreadable.Holds settings ∧
      ∀ bytes, (Stored.ofBytes bytes).Holds settings ↔ ∃ content : String, bytes = content.toUTF8 ∧
        Json.readAs read? content = .ok settings) ∧
    ∀ settings, (fromEnvironment (.ofBytes values)).1 = settings ↔
      Environment.Describes values settings := by
  refine ⟨fun settings hholds environment => ?_, fun hwithout environment => ⟨?_, ?_⟩,
    fun settings => ⟨?_, ?_, fun bytes => ?_⟩, fun settings => ?_⟩
  · exact load_of_holds hholds path environment
  · exact load_of_not_holds hwithout path environment
  · intro other hwithout'
    rw [load_of_not_holds hwithout, load_of_not_holds hwithout']
  · exact fun ⟨_, hfound, _⟩ => nomatch hfound
  · exact fun ⟨_, hfound, _⟩ => nomatch hfound
  · simp only [Stored.Holds, Stored.ofBytes_eq_text_iff]
  · exact Environment.fromEnvironment_eq_iff

private theorem read_es : Json.readAs read? "[\"es:9200\"]" = .ok ⟨"es:9200", none, none, 30⟩ := by cbv

private theorem fromUTF8?_invalid : String.fromUTF8? ⟨#[0xFF]⟩ = none := rfl

/-- Settings in a list are taken from the file; without one the environment decides, past a host that is no
text. -/
theorem es_settings_hold :
    let values (name : String) : Option ByteArray :=
      if name = "DOCSYNC_HOST" then some ⟨#[0xFF]⟩
      else if name = "DOCSYNC_INDEX" then some " people".toUTF8
      else if name = "DOCSYNC_TIMEOUT_SECS" then some " +5\n".toUTF8
      else none
    let file := Stored.ofBytes "[\"es:9200\"]".toUTF8
    file.Holds ⟨"es:9200", none, none, 30⟩ ∧
    (load "docsync.json" file (.ofBytes values)).1 = ⟨"es:9200", none, none, 30⟩ ∧
    (load "docsync.json" .missing (.ofBytes values)).1 = ⟨"localhost:9200", some " people", none, 5⟩ := by
  intro values file
  have hholds : file.Holds ⟨"es:9200", none, none, 30⟩ :=
    ⟨_, Stored.ofBytes_eq_text_iff.mpr rfl, read_es⟩
  obtain ⟨halone, hotherwise, hsources, hdescribed⟩ := load_from_one_source "docsync.json" file values
  obtain ⟨-, hinstead, -, -⟩ := load_from_one_source "docsync.json" .missing values
  refine ⟨hholds, halone _ hholds _, ?_⟩
  rw [(hinstead (fun settings => (hsources settings).1) _).1, hdescribed]
  have hhost (value : String) : ¬ Environment.Sets values "DOCSYNC_HOST" value := by
    rintro ⟨hset, -⟩
    have htext := fromUTF8?_eq_some_iff.mpr (Option.some.inj hset)
    exact nomatch fromUTF8?_invalid.symm.trans htext
  have hindex (value : String) : some " people" = some value ↔
      Environment.Sets values "DOCSYNC_INDEX" value := by
    constructor
    · rintro ⟨⟩
      exact ⟨rfl, 'p', by decide, by decide⟩
    · rintro ⟨hset, -⟩
      exact congrArg some (String.toByteArray_inj.mp (Option.some.inj hset))
  have htype (value : String) : none = some value ↔ Environment.Sets values "DOCSYNC_TYPE" value := by
    constructor
    · exact fun hgiven => nomatch hgiven
    · exact fun ⟨hset, _⟩ => nomatch hset
  have hfive : WritesTimeout " +5\n" 5 := by
    have hdigit : ∀ c ∈ ['5'], '0' ≤ c ∧ c ≤ '9' := List.forall_mem_singleton.mpr (by decide)
    exact ⟨[' '], ['+'], ['5'], ['\n'], rfl, List.forall_mem_singleton.mpr rfl,
      List.forall_mem_singleton.mpr rfl, .inr rfl, List.cons_ne_nil _ _, hdigit, rfl, by decide⟩
  exact ⟨.inr ⟨hhost, rfl⟩, hindex, htype, .inl ⟨_, rfl, hfive⟩⟩

end Settings

end IndexFeed
