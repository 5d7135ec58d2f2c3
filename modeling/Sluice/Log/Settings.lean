import Sluice.Environment
import Sluice.Json.Record
import Sluice.Log.Level
import Sluice.Text.Lower

/-!
# Settings of the log

What is logged, where to and how a line looks. Settings come from defaults, from a JSON object or from
the environment; variables that are set win. A word for the level, the place or the form of lines that is
not known is a fault, whereas a flag that cannot be read falls back to a fixed value, and a variable
whose value is no text counts as unset. A directory need not have a text for its name; there is no JSON
form then.
-/

namespace Sluice.Log

/-- Where lines are written. -/
inductive Output where
  | console
  | file
  | both
  deriving Repr, DecidableEq

/-- Whether lines are written to the console. -/
def Output.toConsole : Output → Bool
  | .console | .both => true
  | .file => false

/-- Whether lines are written to a file. -/
def Output.toFile : Output → Bool
  | .file | .both => true
  | .console => false

/-- The word for a place. -/
def Output.word : Output → String
  | .console => "console"
  | .file => "file"
  | .both => "both"

/-- How a line looks. -/
inductive Format where
  | text
  | json
  deriving Repr, DecidableEq

/-- The word for a form of lines. -/
def Format.word : Format → String
  | .text => "text"
  | .json => "json"

/-- A word that is not known. -/
inductive WordFault where
  | level (text : String)
  | output (text : String)
  | format (text : String)
  deriving Repr, DecidableEq

/-- The wording of a fault. -/
def WordFault.message : WordFault → String
  | .level text => "Invalid log level: " ++ text
  | .output text => "Invalid log output: " ++ text
  | .format text => "Invalid log format: " ++ text

/-- The words for levels. -/
def levelWords : List (String × Level) :=
  [("trace", .trace), ("debug", .debug), ("info", .info), ("warn", .warn), ("warning", .warn),
    ("error", .error)]

/-- The words for places. -/
def outputWords : List (String × Output) :=
  [("console", .console), ("stdout", .console), ("file", .file), ("both", .both), ("all", .both)]

/-- The words for forms of lines. -/
def formatWords : List (String × Format) :=
  [("text", .text), ("pretty", .text), ("json", .json)]

/-- Looks a word up whatever its letter case. -/
def ofWord {α : Type} (words : List (String × α)) (fault : String → WordFault) (text : String) :
    Except WordFault α :=
  match words.lookup (Text.lower text) with
  | some value => .ok value
  | none => .error (fault text)

/-- The level of a word. -/
def readLevel : String → Except WordFault Level := ofWord levelWords .level

/-- The place of a word. -/
def readOutput : String → Except WordFault Output := ofWord outputWords .output

/-- The form of a word. -/
def readFormat : String → Except WordFault Format := ofWord formatWords .format

/-- The settings of the log. -/
structure Settings where
  level : Level
  output : Output
  format : Format
  /-- The directory of log files. -/
  directory : NativeText
  /-- The first part of the names of log files. -/
  fileName : String
  /-- Further directives of the filter, separated by commas. -/
  directives : Option String
  withLocation : Bool
  withThread : Bool
  withTarget : Bool
  deriving Repr, DecidableEq

namespace Settings

/-- The settings where nothing else is said. -/
def standard : Settings where
  level := .info
  output := .console
  format := .text
  directory := .text "./logs"
  fileName := "cda"
  directives := none
  withLocation := false
  withThread := false
  withTarget := true

/-- The text of a variable read as a word, or what held before. -/
def wordOr {α : Type} (text : Option String) (read : String → Except WordFault α) (held : α) :
    Except WordFault α :=
  match text with
  | some text => read text
  | none => .ok held

/-- The text of a variable read as a flag, or what held before; `fallback` stands for a text that is
no flag. -/
def flagOr (text : Option String) (fallback held : Bool) : Bool :=
  match text with
  | some text => if text = "true" then true else if text = "false" then false else fallback
  | none => held

/-- The settings with every variable that is set taking the place of what held before. -/
def overlay (settings : Settings) (environment : Environment) : Except WordFault Settings := do
  let level ← wordOr (environment.text? "LOG_LEVEL") readLevel settings.level
  let output ← wordOr (environment.text? "LOG_OUTPUT") readOutput settings.output
  let format ← wordOr (environment.text? "LOG_FORMAT") readFormat settings.format
  return {
    level
    output
    format
    directory := ((environment.text? "LOG_DIR").map .text).getD settings.directory
    fileName := (environment.text? "LOG_FILE_PREFIX").getD settings.fileName
    directives := (environment.text? "LOG_FILTER").or settings.directives
    withLocation :=
      flagOr (environment.text? "LOG_INCLUDE_LOCATION") false settings.withLocation
    withThread := flagOr (environment.text? "LOG_INCLUDE_THREAD_IDS") false settings.withThread
    withTarget := flagOr (environment.text? "LOG_INCLUDE_TARGETS") true settings.withTarget }

/-- The settings that the environment gives. -/
def ofEnvironment (environment : Environment) : Except WordFault Settings :=
  standard.overlay environment

/-- Why settings have no JSON form. -/
inductive WriteFault where
  /-- The name of the directory is no text. -/
  | directory
  deriving Repr, DecidableEq

/-- The wording of a fault. -/
def WriteFault.message : WriteFault → String
  | .directory => "path contains invalid UTF-8 characters"

/-- The members of the settings' JSON form in their order, the directory having a name. -/
def membersWith (settings : Settings) (directory : String) : List (String × Json) :=
  [ ("level", .text settings.level.word),
    ("output", .text settings.output.word),
    ("format", .text settings.format.word),
    ("log_dir", .text directory),
    ("log_file_prefix", .text settings.fileName),
    ("filter_directives", .ofText? settings.directives),
    ("include_location", .bool settings.withLocation),
    ("include_thread_ids", .bool settings.withThread),
    ("include_targets", .bool settings.withTarget) ]

/-- The members of the settings' JSON form. -/
def members (settings : Settings) : Except WriteFault (List (String × Json)) :=
  match settings.directory with
  | .text directory => .ok (settings.membersWith directory)
  | .bytes _ _ => .error .directory

/-- The settings as JSON text. -/
def render (settings : Settings) : Except WriteFault String :=
  settings.members.map Json.renderInOrder

/-- What has been read of settings. -/
structure Partial where
  level : Option Level := none
  output : Option Output := none
  format : Option Format := none
  directory : Option NativeText := none
  fileName : Option String := none
  directives : Option (Option String) := none
  withLocation : Option Bool := none
  withThread : Option Bool := none
  withTarget : Option Bool := none

open Json.Reader in
/-- The fields of the settings' JSON form. -/
def fields : List (Json.Reader.Field Partial) :=
  [ { name := "level"
      omittable := false
      isRead held := held.level.isSome
      read held := do
        let word ← choice ([Level.trace, .debug, .info, .warn, .error].map fun l => (l.word, l))
        return { held with level := some word } },
    { name := "output"
      omittable := false
      isRead held := held.output.isSome
      read held := do
        let word ← choice ([Output.console, .file, .both].map fun output => (output.word, output))
        return { held with output := some word } },
    { name := "format"
      omittable := false
      isRead held := held.format.isSome
      read held := do
        let word ← choice ([Format.text, .json].map fun format => (format.word, format))
        return { held with format := some word } },
    { name := "log_dir"
      omittable := false
      isRead held := held.directory.isSome
      read held := do return { held with directory := some (.text (← textValue "path string")) } },
    { name := "log_file_prefix"
      omittable := false
      isRead held := held.fileName.isSome
      read held := do return { held with fileName := some (← textValue "a string") } },
    { name := "filter_directives"
      omittable := false
      isRead held := held.directives.isSome
      read held := do
        return { held with directives := some (← optional (textValue "a string")) } },
    { name := "include_location"
      omittable := false
      isRead held := held.withLocation.isSome
      read held := do return { held with withLocation := some (← boolValue) } },
    { name := "include_thread_ids"
      omittable := false
      isRead held := held.withThread.isSome
      read held := do return { held with withThread := some (← boolValue) } },
    { name := "include_targets"
      omittable := false
      isRead held := held.withTarget.isSome
      read held := do return { held with withTarget := some (← boolValue) } } ]

/-- A field that must have been read. -/
def needed {α : Type} (name : String) (value : Option α) : Except Json.Cause α :=
  match value with
  | some value => .ok value
  | none => .error (.missingField name)

/-- The settings, if every field has been read; directives may be missing. -/
def finish (held : Partial) : Except Json.Cause Settings := do
  return {
    level := ← needed "level" held.level
    output := ← needed "output" held.output
    format := ← needed "format" held.format
    directory := ← needed "log_dir" held.directory
    fileName := ← needed "log_file_prefix" held.fileName
    directives := held.directives.getD none
    withLocation := ← needed "include_location" held.withLocation
    withThread := ← needed "include_thread_ids" held.withThread
    withTarget := ← needed "include_targets" held.withTarget }

/-- The shape of the settings' JSON form; further members are passed over. -/
def shape : Json.Reader.Shape Partial Settings where
  name := "LogConfig"
  fields := fields
  strict := false
  start := {}
  finish := finish

/-- Reads settings from JSON text. -/
def parse (bytes : List UInt8) : Except Json.Refusal Settings :=
  Json.Reader.whole shape.reader bytes

end Settings

end Sluice.Log
