import Sluice.Log.Filter
import Sluice.Log.Line

/-!
# Setting up the log

The filter of some settings: what a variable of its own asks for, then the level of the settings, then
their further directives. A log is set up once; what stands in the way is found in a fixed order, the
directives first.
-/

namespace Sluice.Log

/-- Why a log cannot be set up. -/
inductive SetupFault where
  | directive (text : String) (fault : DirectiveFault)
  /-- The variable for filters holds a directive that cannot be cut into its parts. -/
  | uncuttable
  /-- The directory of log files cannot be made. -/
  | directory (reason : String)
  /-- There is a log already. -/
  | installed
  deriving Repr, DecidableEq

/-- The wordings of a fault and of the faults behind it. -/
def SetupFault.chain : SetupFault → List String
  | .directive text fault => ("Failed to parse filter directive '" ++ text ++ "'") :: fault.chain
  | .uncuttable => DirectiveFault.uncuttable.chain
  | .directory reason => ["Failed to create log directory", reason]
  | .installed =>
    ["Failed to install tracing subscriber",
      "a global default trace dispatcher has already been set"]

/-- The wording of a fault. -/
def SetupFault.message (fault : SetupFault) : String :=
  ": ".intercalate fault.chain

/-- Adds directives that are given as text. -/
def addDirectives (filter : Filter) : List String → Except SetupFault Filter
  | [] => .ok filter
  | text :: rest =>
    match Directive.parse text with
    | .ok directive => addDirectives (filter.add directive) rest
    | .error fault => .error (.directive text fault)

/-- The filter of some settings, `text` being that of the variable for filters. -/
def Settings.filter (settings : Settings) (text : Option String) : Except SetupFault Filter :=
  match Filter.ofVariable? text with
  | none => .error .uncuttable
  | some filter =>
    addDirectives (filter.add (Filter.upTo (some settings.level)))
      ((settings.directives.map (Text.items ',')).getD [])

/-- What setting up a log meets with. -/
structure Surroundings where
  /-- The text of the variable for filters. -/
  filterText : Option String
  /-- Why the directory of log files cannot be made. -/
  directoryFault : Option String
  /-- Whether there is a log already. -/
  installed : Bool
  deriving Repr, DecidableEq

/-- Sets up a log. -/
def Settings.setUp (settings : Settings) (surroundings : Surroundings) :
    Except SetupFault Filter := do
  let filter ← settings.filter surroundings.filterText
  if settings.output.toFile then
    match surroundings.directoryFault with
    | some reason => .error (.directory reason)
    | none => pure ()
  if surroundings.installed then .error .installed else return filter

/-- What is reported on trial: for each of some targets an event at every level, and then an event
within a span, whose end is reported as well. -/
structure Trial where
  targets : List String
  message : String
  field : String × Int
  spanTarget : String
  spanName : String
  spanField : String × Int
  within : String
  deriving Repr, DecidableEq

namespace Trial

/-- A value as a text. -/
def fieldText (field : String × Int) : String × String :=
  (field.1, toString field.2)

/-- The entries for the events outside the span. -/
def outside (trial : Trial) (filter : Filter) : List Entry :=
  trial.targets.flatMap fun target =>
    (Level.all.filter fun level =>
      filter.reports [] ⟨target, level, none, ["message", trial.field.1]⟩).map fun level =>
        ⟨level, target, trial.message, [fieldText trial.field], none⟩

/-- What is known in advance of the span. -/
def spanSite (trial : Trial) : Site :=
  ⟨trial.spanTarget, .info, some trial.spanName, [trial.spanField.1]⟩

/-- The entries for the span, if it is reported, and the event within it. -/
def inside (trial : Trial) (filter : Filter) : List Entry :=
  let opened := filter.reports [] trial.spanSite
  let span : Option OpenSpan :=
    if opened then some ⟨trial.spanName, [fieldText trial.spanField]⟩ else none
  let thresholds :=
    if opened then filter.thresholdWithin trial.spanSite [trial.spanField] else []
  let entry (message : String) : Entry := ⟨.info, trial.spanTarget, message, [], span⟩
  (if filter.reports thresholds ⟨trial.spanTarget, .info, none, ["message"]⟩ then
    [entry trial.within] else []) ++
    (if opened then [entry "close"] else [])

/-- Everything that is written. -/
def entries (trial : Trial) (filter : Filter) : List Entry :=
  trial.outside filter ++ trial.inside filter

end Trial

end Sluice.Log
