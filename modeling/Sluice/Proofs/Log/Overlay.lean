import Mathlib.Data.List.Nodup
import Sluice.Log.Settings
import Sluice.Proofs.Json.RecordText
import Sluice.Proofs.Text.Parts

/-!
# Settings of the log laid over others

Settings of the log have nine fields, and each has a variable and a key in the settings' JSON form. A
variable that holds a text replaces its field by what the text is read as, and nothing else:
`Settings.wordOr_of_overlay` says so of one field, and since the fields are all that there is of
settings, what overlaying does follows from it. For three of the fields a text may be no word that is
known, which is the only way to fail: a value that is no text is passed over, as
`Settings.values_of_no_text_passed_over` shows. The words that are known to variables and those of the
JSON form are two vocabularies; each word of the second is one of the first and stands for the same.
-/

namespace Sluice.Log.Settings

open Json (Reader Reads Takes reads_boolValue reads_choice reads_field reads_optional_null
  reads_optional_textValue reads_textValue renderInOrder_eq_render textMembers?
  textMembers?_renderInOrder whole_render_of_takes)
open Text.Utf8 (encodeChars)

/-- The fields of the settings. -/
inductive Field where
  | level
  | output
  | format
  | directory
  | fileName
  | directives
  | withLocation
  | withThread
  | withTarget
  deriving DecidableEq

namespace Field

/-- The variable of a field. -/
def variableName : Field → String
  | .level => "LOG_LEVEL"
  | .output => "LOG_OUTPUT"
  | .format => "LOG_FORMAT"
  | .directory => "LOG_DIR"
  | .fileName => "LOG_FILE_PREFIX"
  | .directives => "LOG_FILTER"
  | .withLocation => "LOG_INCLUDE_LOCATION"
  | .withThread => "LOG_INCLUDE_THREAD_IDS"
  | .withTarget => "LOG_INCLUDE_TARGETS"

/-- The key of a field in the settings' JSON form. -/
def key : Field → String
  | .level => "level"
  | .output => "output"
  | .format => "format"
  | .directory => "log_dir"
  | .fileName => "log_file_prefix"
  | .directives => "filter_directives"
  | .withLocation => "include_location"
  | .withThread => "include_thread_ids"
  | .withTarget => "include_targets"

/-- What a field holds. -/
abbrev Value : Field → Type
  | .level => Level
  | .output => Output
  | .format => Format
  | .directory => NativeText
  | .fileName => String
  | .directives => Option String
  | .withLocation | .withThread | .withTarget => Bool

/-- The value of a field in settings. -/
def get : (field : Field) → Settings → field.Value
  | .level => Settings.level
  | .output => Settings.output
  | .format => Settings.format
  | .directory => Settings.directory
  | .fileName => Settings.fileName
  | .directives => Settings.directives
  | .withLocation => Settings.withLocation
  | .withThread => Settings.withThread
  | .withTarget => Settings.withTarget

/-- The words that a variable may hold, if it may not hold just any text. -/
def words : Field → Option (List String)
  | .level => some ["trace", "debug", "info", "warn", "warning", "error"]
  | .output => some ["console", "stdout", "file", "both", "all"]
  | .format => some ["text", "pretty", "json"]
  | _ => none

/-- A variable may hold a text: it is one of the words in any letter case, where there are such. -/
def Accepts (field : Field) (text : String) : Prop :=
  ∀ words, field.words = some words → Text.lower text ∈ words

/-- The value that the text of a variable is read as. -/
def read : (field : Field) → String → Except WordFault field.Value
  | .level, text => readLevel text
  | .output, text => readOutput text
  | .format, text => readFormat text
  | .directory, text => .ok (.text text)
  | .fileName, text => .ok text
  | .directives, text => .ok (some text)
  | .withLocation, text | .withThread, text => .ok (decide (text = "true"))
  | .withTarget, text => .ok (decide (text ≠ "false"))

/-- All fields, in the order of their variables. -/
def all : List Field :=
  [.level, .output, .format, .directory, .fileName, .directives, .withLocation, .withThread,
    .withTarget]

theorem mem_all (field : Field) : field ∈ all := by
  cases field <;> simp [all]

/-- No two fields share a variable. -/
theorem eq_of_variableName_eq {field other : Field}
    (same : field.variableName = other.variableName) : field = other := by
  have distinct : (all.map variableName).Nodup := by decide
  exact List.inj_on_of_nodup_map distinct field.mem_all other.mem_all same

end Field

variable {settings other merged : Settings} {environment : Environment} {field : Field}

/-- Settings are determined by their fields. -/
theorem ext_of_fields (same : ∀ field : Field, field.get settings = field.get other) :
    settings = other := by
  obtain ⟨level, output, format, directory, fileName, directives, location, thread, target⟩ :=
    settings
  obtain rfl : level = _ := same .level
  obtain rfl : output = _ := same .output
  obtain rfl : format = _ := same .format
  obtain rfl : directory = _ := same .directory
  obtain rfl : fileName = _ := same .fileName
  obtain rfl : directives = _ := same .directives
  obtain rfl : location = _ := same .withLocation
  obtain rfl : thread = _ := same .withThread
  obtain rfl : target = _ := same .withTarget
  rfl

/-! ## Words -/

/-- The words that are known are those that are listed. -/
theorem exists_ofWord_iff {α : Type} {words : List (String × α)} {fault : String → WordFault}
    {text : String} :
    (∃ value, ofWord words fault text = .ok value) ↔ Text.lower text ∈ words.map (·.1) := by
  have listed : Text.lower text ∈ words.map (·.1) ↔
      (words.lookup (Text.lower text)).isSome = true := by
    rw [List.lookup_isSome_iff, List.mem_map]
    exact exists_congr fun entry => and_congr_right fun _ => by rw [beq_iff_eq, eq_comm]
  rw [listed, ofWord]
  cases words.lookup (Text.lower text) with
  | none => exact Iff.intro (fun ⟨_, known⟩ => nomatch known) (fun known => nomatch known)
  | some value => exact Iff.intro (fun _ => rfl) (fun _ => ⟨value, rfl⟩)

/-- A word is known in any case of its letters of ASCII. -/
theorem ofWord_of_alike {α : Type} {words : List (String × α)} {fault : String → WordFault}
    {text word : String} {value : α} (alike : text.map Char.toLower = word.map Char.toLower)
    (known : words.lookup (Text.lower word) = some value) : ofWord words fault text = .ok value := by
  simp only [ofWord, Text.lower_eq_of_map_toLower alike, known]

/-- A text is read unless it is no word that is known. -/
theorem Field.exists_read_iff {text : String} :
    (∃ value, field.read text = .ok value) ↔ field.Accepts text := by
  cases field with
  | level | output | format =>
    refine Iff.trans exists_ofWord_iff (Iff.intro (fun known words isWords => ?_) fun accepts => ?_)
    · obtain rfl := Option.some.inj isWords
      exact known
    · exact accepts _ rfl
  | directory | fileName | directives | withLocation | withThread | withTarget =>
    exact Iff.intro (fun _ _ isWords => nomatch isWords) (fun _ => ⟨_, rfl⟩)

/-! ## Overlaying -/

/-- A text that is no flag counts as no where that is the fallback. -/
theorem flagOr_false (text : String) (held : Bool) :
    flagOr (some text) false held = decide (text = "true") := by
  simp only [flagOr, ite_self]
  split <;> simp_all

/-- A text that is no flag counts as yes where that is the fallback. -/
theorem flagOr_true (text : String) (held : Bool) :
    flagOr (some text) true held = decide (text ≠ "false") := by
  simp only [flagOr]
  split
  · next isTrue => simp [isTrue]
  · split <;> simp_all

/-- If each of the three words that are set is known, the environment can be laid over settings, and
each field becomes what the text of its variable is read as, or stays if there is none. -/
theorem exists_overlay_of_words {level : Level} {output : Output} {format : Format}
    (isLevel : wordOr (environment.text? "LOG_LEVEL") readLevel settings.level = .ok level)
    (isOutput : wordOr (environment.text? "LOG_OUTPUT") readOutput settings.output = .ok output)
    (isFormat : wordOr (environment.text? "LOG_FORMAT") readFormat settings.format = .ok format) :
    ∃ merged, settings.overlay environment = .ok merged ∧ ∀ field : Field,
      wordOr (environment.text? field.variableName) field.read (field.get settings) =
        .ok (field.get merged) := by
  refine ⟨_, by rw [overlay, isLevel, isOutput, isFormat]; rfl, fun field => ?_⟩
  cases field with
  | level => exact isLevel
  | output => exact isOutput
  | format => exact isFormat
  -- No text of the other variables is a fault.
  | directory | fileName | directives =>
    simp only [Field.variableName, Field.get]
    generalize environment.text? _ = text?
    cases text? <;> rfl
  | withLocation | withThread =>
    simp only [Field.variableName, Field.get]
    generalize environment.text? _ = text?
    cases text? with
    | none => rfl
    | some text => exact congrArg Except.ok (flagOr_false text _).symm
  | withTarget =>
    simp only [Field.variableName, Field.get]
    cases environment.text? "LOG_INCLUDE_TARGETS" with
    | none => rfl
    | some text => exact congrArg Except.ok (flagOr_true text _).symm

/-- Once an environment is laid over settings, each field is what the text of its variable is read as,
or what held before if there is none. -/
theorem wordOr_of_overlay (laid : settings.overlay environment = .ok merged) (field : Field) :
    wordOr (environment.text? field.variableName) field.read (field.get settings) =
      .ok (field.get merged) := by
  have refused {fault : WordFault} (other : settings.overlay environment = .error fault) : False :=
    nomatch other.symm.trans laid
  -- The words are read one after another, and the first that is not known is the outcome.
  cases isLevel : wordOr (environment.text? "LOG_LEVEL") readLevel settings.level with
  | error => exact (refused (by rw [overlay, isLevel]; rfl)).elim
  | ok level =>
  cases isOutput : wordOr (environment.text? "LOG_OUTPUT") readOutput settings.output with
  | error => exact (refused (by rw [overlay, isLevel, isOutput]; rfl)).elim
  | ok output =>
  cases isFormat : wordOr (environment.text? "LOG_FORMAT") readFormat settings.format with
  | error => exact (refused (by rw [overlay, isLevel, isOutput, isFormat]; rfl)).elim
  | ok format =>
    obtain ⟨_, same, fields⟩ := exists_overlay_of_words isLevel isOutput isFormat
    obtain rfl := Except.ok.inj (same.symm.trans laid)
    exact fields field

/-- A field whose variable holds no text stays. -/
theorem get_of_unset (laid : settings.overlay environment = .ok merged)
    (unset : environment.text? field.variableName = none) :
    field.get merged = field.get settings := by
  have value := wordOr_of_overlay laid field
  rw [unset] at value
  exact (Except.ok.inj value).symm

/-- A field whose variable holds a text is what the text is read as. -/
theorem read_of_set (laid : settings.overlay environment = .ok merged) {text : String}
    (set : environment.text? field.variableName = some text) :
    field.read text = .ok (field.get merged) := by
  have value := wordOr_of_overlay laid field
  rwa [set] at value

/-- An environment can be laid over settings if its variables may hold their texts; what held before
does not matter. -/
theorem exists_overlay_iff :
    (∃ merged, settings.overlay environment = .ok merged) ↔
      ∀ (field : Field) text, environment.text? field.variableName = some text →
        field.Accepts text := by
  constructor
  · rintro ⟨merged, laid⟩ field text set
    exact Field.exists_read_iff.mp ⟨_, read_of_set laid set⟩
  · intro accepted
    have known (field : Field) : ∃ value,
        wordOr (environment.text? field.variableName) field.read (field.get settings) =
          .ok value := by
      cases set : environment.text? field.variableName with
      | none => exact ⟨_, rfl⟩
      | some text => exact Field.exists_read_iff.mpr (accepted field text set)
    obtain ⟨_, isLevel⟩ := known .level
    obtain ⟨_, isOutput⟩ := known .output
    obtain ⟨_, isFormat⟩ := known .format
    obtain ⟨merged, laid, _⟩ := exists_overlay_of_words isLevel isOutput isFormat
    exact ⟨merged, laid⟩

/-- A text that can be read becomes the value of its field, if the other variables may hold theirs. -/
theorem exists_overlay_of_read {text : String} {value : field.Value}
    (set : environment.text? field.variableName = some text) (isRead : field.read text = .ok value)
    (others : ∀ other : Field, other ≠ field →
      ∀ text, environment.text? other.variableName = some text → other.Accepts text) :
    ∃ merged, settings.overlay environment = .ok merged ∧ field.get merged = value := by
  obtain ⟨merged, laid⟩ : ∃ merged, settings.overlay environment = .ok merged := by
    refine exists_overlay_iff.mpr fun other text' isSet => ?_
    by_cases same : other = field
    · subst same
      obtain rfl := Option.some.inj (set.symm.trans isSet)
      exact Field.exists_read_iff.mp ⟨value, isRead⟩
    · exact others other same text' isSet
  exact ⟨merged, laid, Except.ok.inj ((read_of_set laid set).symm.trans isRead)⟩

/-- A field whose variable holds a text is what the text says, whatever the other variables and what
held before. -/
theorem get_eq_of_set {others : Settings} {otherEnvironment : Environment}
    (laid : settings.overlay environment = .ok merged)
    (otherLaid : other.overlay otherEnvironment = .ok others)
    (same : otherEnvironment.text? field.variableName = environment.text? field.variableName)
    (set : environment.text? field.variableName ≠ none) : field.get others = field.get merged := by
  obtain ⟨text, isSet⟩ := Option.ne_none_iff_exists'.mp set
  have otherRead := read_of_set otherLaid (same.trans isSet)
  exact Except.ok.inj (otherRead.symm.trans (read_of_set laid isSet))

/-- Laying the same environment over settings once more changes nothing. -/
theorem overlay_of_overlay (laid : settings.overlay environment = .ok merged) :
    merged.overlay environment = .ok merged := by
  -- Which environments can be laid over settings does not depend on the settings.
  obtain ⟨again, laidAgain⟩ : ∃ again, merged.overlay environment = .ok again :=
    exists_overlay_iff.mpr (exists_overlay_iff.mp ⟨merged, laid⟩)
  have same : again = merged := by
    apply ext_of_fields
    intro field
    by_cases unset : environment.text? field.variableName = none
    · exact get_of_unset laidAgain unset
    · exact get_eq_of_set laid laidAgain rfl unset
  rw [laidAgain, same]

/-! ## JSON text -/

/-- Settings have a JSON form if the name of their directory is a text. -/
theorem render_eq_ok_iff {text : String} :
    settings.render = .ok text ↔ ∃ name, settings.directory = .text name ∧
      Json.renderInOrder (settings.membersWith name) = text := by
  unfold render members
  cases settings.directory with
  | text name =>
    refine ⟨fun same => ⟨name, rfl, Except.ok.inj same⟩, ?_⟩
    rintro ⟨_, same, isText⟩
    cases same
    exact congrArg Except.ok isText
  | bytes _ _ => exact ⟨nofun, fun ⟨_, same, _⟩ => nomatch same⟩

/-- All members of the settings' JSON form are fields of the shape in which settings are read. -/
theorem takes_members {name : String} (named : settings.directory = .text name) :
    Takes shape.member shape.start (settings.membersWith name)
      ⟨some settings.level, some settings.output, some settings.format, some settings.directory,
        some settings.fileName, some settings.directives, some settings.withLocation,
        some settings.withThread, some settings.withTarget⟩ := by
  have isLevel : ([Level.trace, .debug, .info, .warn, .error].map fun l => (l.word, l)).lookup
      settings.level.word = some settings.level := by
    cases settings.level <;> decide
  have isOutput : ([Output.console, .file, .both].map fun output => (output.word, output)).lookup
      settings.output.word = some settings.output := by
    cases settings.output <;> decide
  have isFormat : ([Format.text, .json].map fun format => (format.word, format)).lookup
      settings.format.word = some settings.format := by
    cases settings.format <;> decide
  have reads_directives (rest : List UInt8) :
      Reads (Reader.optional (Reader.textValue "a string"))
        (encodeChars (Json.chars (.ofText? settings.directives))) settings.directives rest := by
    cases settings.directives with
    | none => exact reads_optional_null _ rest
    | some text => exact reads_optional_textValue _ text rest
  rw [named]
  refine .cons (fun rest _ => reads_field rfl rfl ((reads_choice isLevel rest).bind _)) ?_
  refine .cons (fun rest _ => reads_field rfl rfl ((reads_choice isOutput rest).bind _)) ?_
  refine .cons (fun rest _ => reads_field rfl rfl ((reads_choice isFormat rest).bind _)) ?_
  refine .cons (fun rest _ => reads_field rfl rfl ((reads_textValue _ _ rest).bind _)) ?_
  refine .cons (fun rest _ => reads_field rfl rfl ((reads_textValue _ _ rest).bind _)) ?_
  refine .cons (fun rest _ => reads_field rfl rfl ((reads_directives rest).bind _)) ?_
  refine .cons (fun rest _ => reads_field rfl rfl ((reads_boolValue _ rest).bind _)) ?_
  refine .cons (fun rest _ => reads_field rfl rfl ((reads_boolValue _ rest).bind _)) ?_
  refine .cons (fun rest _ => reads_field rfl rfl ((reads_boolValue _ rest).bind _)) ?_
  exact .nil _

/-- Settings are read back from their text. -/
theorem parse_render {text : String} (written : settings.render = .ok text) :
    parse (Text.Utf8.encode text) = .ok settings := by
  obtain ⟨name, named, rfl⟩ := render_eq_ok_iff.mp written
  rw [renderInOrder_eq_render]
  exact whole_render_of_takes (takes_members named) rfl

/-- The members of the settings' JSON form that are texts are read back from their text. -/
theorem textMembers?_render (settings : Settings) (name : String) :
    textMembers? (Text.Utf8.encode (Json.renderInOrder (settings.membersWith name))) =
      .ok ((settings.membersWith name).map fun pair => (pair.1, pair.2.text?)) :=
  textMembers?_renderInOrder (by simp only [membersWith, List.map_cons, List.map_nil]; decide)

/-- Where a variable holds one of some words, the JSON form has a word for the value, which the variable
reads as the same value in any case of its letters of ASCII. -/
theorem exists_word (settings : Settings) (name : String) (isWord : field.words ≠ none) :
    ∃ word,
      ((settings.membersWith name).map fun pair => (pair.1, pair.2.text?)).lookup field.key =
        some (some word) ∧
      ∀ text : String, text.map Char.toLower = word.map Char.toLower →
        field.read text = .ok (field.get settings) := by
  cases field with
  | level =>
    refine ⟨settings.level.word, rfl, fun text alike => ofWord_of_alike alike ?_⟩
    simp only [Field.get]
    cases settings.level <;> decide +kernel
  | output =>
    refine ⟨settings.output.word, rfl, fun text alike => ofWord_of_alike alike ?_⟩
    simp only [Field.get]
    cases settings.output <;> decide +kernel
  | format =>
    refine ⟨settings.format.word, rfl, fun text alike => ofWord_of_alike alike ?_⟩
    simp only [Field.get]
    cases settings.format <;> decide +kernel
  | directory | fileName | directives | withLocation | withThread | withTarget =>
    exact absurd rfl isWord

/-! ## Variables and JSON text -/

/-- What laying an environment over settings comes to, field by field. -/
structure IsOverlaid (environment : Environment) (settings merged : Settings) : Prop where
  /-- A field whose variable holds no text stays. -/
  kept : ∀ field : Field, environment.text? field.variableName = none →
    field.get merged = field.get settings
  /-- A field whose variable holds a text depends on that text alone. -/
  taken : ∀ (other : Settings) otherEnvironment others (field : Field),
    other.overlay otherEnvironment = .ok others →
    otherEnvironment.text? field.variableName = environment.text? field.variableName →
    environment.text? field.variableName ≠ none → field.get others = field.get merged
  again : merged.overlay environment = .ok merged

/-- How settings take what the environment holds. -/
structure TakesVariables (settings : Settings) : Prop where
  /-- Settings are what their nine fields are. -/
  determined : ∀ other : Settings, (∀ field : Field, field.get settings = field.get other) →
    settings = other
  /-- No two fields share a variable. -/
  ownVariables : ∀ field other : Field, field.variableName = other.variableName → field = other
  /-- Only a text that is no word where words are asked for stands in the way. -/
  succeeds : ∀ environment, (∃ merged, settings.overlay environment = .ok merged) ↔
    ∀ (field : Field) text, environment.text? field.variableName = some text → field.Accepts text
  overlaid : ∀ environment merged, settings.overlay environment = .ok merged →
    IsOverlaid environment settings merged

/-- A word may be held by the variable of a field, in any case of its letters of ASCII, and stands there
for what the field of some settings is. -/
def IsMeantBy (settings : Settings) (field : Field) (word : String) : Prop :=
  ∀ text : String, text.map Char.toLower = word.map Char.toLower →
    ∀ (held : Settings) environment, environment.text? field.variableName = some text →
      (∀ other : Field, other ≠ field →
        ∀ text, environment.text? other.variableName = some text → other.Accepts text) →
      ∃ merged, held.overlay environment = .ok merged ∧ field.get merged = field.get settings

/-- How settings are written and read back. -/
structure IsReadBack (settings : Settings) : Prop where
  /-- There is a JSON form if, and only if, the name of the directory is a text. -/
  written : (∃ text, settings.render = .ok text) ↔ ∃ name, settings.directory = .text name
  readBack : ∀ text, settings.render = .ok text → parse (Text.Utf8.encode text) = .ok settings
  /-- The words for the level, the place and the form are words for variables, too. -/
  words : ∀ text, settings.render = .ok text →
    ∃ members, textMembers? (Text.Utf8.encode text) = .ok members ∧
      ∀ field : Field, field.words ≠ none →
        ∃ word, members.lookup field.key = some (some word) ∧ settings.IsMeantBy field word

end Sluice.Log.Settings
