import Sluice.Log.Event
import Sluice.Log.Settings

/-!
# Lines of the log

How something that is reported looks as a line: as text for people, or as a JSON object. Lines are
described here without the time at which they were written.
-/

namespace Sluice.Log

/-- Where in the program and in which thread something was reported. -/
structure Origin where
  location : String
  thread : String
  deriving Repr, DecidableEq

/-- A span with its fields. -/
structure OpenSpan where
  name : String
  fields : Fields
  deriving Repr, DecidableEq

/-- Something that is reported. -/
structure Entry where
  level : Level
  target : String
  message : String
  fields : Fields
  span : Option OpenSpan
  deriving Repr, DecidableEq

/-- Fields as text. -/
def fieldTexts (fields : Fields) : List String :=
  fields.map fun (name, value) => name ++ "=" ++ value

/-- The form of a span in a line of text. -/
def OpenSpan.text (span : OpenSpan) : String :=
  span.name ++ "\x7b" ++ " ".intercalate (fieldTexts span.fields) ++ "\x7d:"

/-- The line of text. -/
def Entry.text (entry : Entry) (settings : Settings) (origin : Origin) : String :=
  " ".intercalate
    ([entry.level.name] ++ (if settings.withThread then [origin.thread] else []) ++
      (entry.span.map OpenSpan.text).toList ++
      (if settings.withTarget then [entry.target ++ ":"] else []) ++
      (if settings.withLocation then [origin.location] else []) ++
      [entry.message] ++ fieldTexts entry.fields)

/-- The keys of the JSON object, in order. -/
def Entry.keys (entry : Entry) (settings : Settings) : List String :=
  ["fields"] ++ (if settings.withLocation then ["filename"] else []) ++ ["level"] ++
    (if settings.withLocation then ["line_number"] else []) ++
    (if entry.span.isSome then ["span", "spans"] else []) ++
    (if settings.withTarget then ["target"] else []) ++
    (if settings.withThread then ["threadId"] else []) ++ ["timestamp"]

/-- A line, apart from its time. -/
inductive Line where
  | text (coloured : Bool) (text : String)
  | json (keys : List String) (level : Level) (target : Option String) (message : String)
  deriving Repr, DecidableEq

/-- The line for something that is reported. -/
def Entry.line (entry : Entry) (settings : Settings) (origin : Origin) (coloured : Bool) : Line :=
  match settings.format with
  | .text => .text coloured (entry.text settings origin)
  | .json =>
    .json (entry.keys settings) entry.level
      (if settings.withTarget then some entry.target else none) entry.message

/-- The line on the console, which shows colours. -/
def Entry.consoleLine (entry : Entry) (settings : Settings) (origin : Origin) : Line :=
  entry.line settings origin true

/-- The line in a file. Its own parts have no colours, but a span keeps the form that it was given on
the console. -/
def Entry.fileLine (entry : Entry) (settings : Settings) (origin : Origin) : Line :=
  entry.line settings origin (settings.output.toConsole && entry.span.isSome)

/-- The name of the file that is written on some day. -/
def Settings.fileOn (settings : Settings) (day : String) : String :=
  if settings.fileName.isEmpty then day else settings.fileName ++ "." ++ day

end Sluice.Log
