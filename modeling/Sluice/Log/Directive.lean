import Sluice.Log.FieldValue
import Sluice.Log.Level
import Sluice.Text.Slice

/-!
# Directives of the filter

A directive says up to which level something is logged: everything, what has a target that begins
with some text, or what lies in a span with a name and with some fields. `store=warn`, `debug`,
`[work]=trace` and `server[work{k=2}]=info` are directives.
-/

namespace Sluice.Log

/-- The threshold of a word in any letter case, or of a number from zero to five. -/
def Threshold.ofText? (text : String) : Option Threshold :=
  match Number.readNatural Number.max64 text with
  | .ok 0 => some none
  | .ok 1 => some (some .error)
  | .ok 2 => some (some .warn)
  | .ok 3 => some (some .info)
  | .ok 4 => some (some .debug)
  | .ok 5 => some (some .trace)
  | .ok _ => none
  | .error _ =>
    [("error", some .error), ("warn", some .warn), ("info", some .info), ("debug", some .debug),
      ("trace", some Level.trace), ("off", none)].lookup (text.map Char.toLower)

/-- A field that a span or an event must have, perhaps with a value. -/
structure FieldMatch where
  name : String
  value : Option FieldValue
  deriving Repr, DecidableEq

/-- A directive. -/
structure Directive where
  threshold : Threshold
  /-- The text with which targets begin. -/
  target : Option String
  /-- The name of the span. -/
  span : Option String
  fields : List FieldMatch
  deriving Repr, DecidableEq

/-- Why a text is no directive. -/
inductive DirectiveFault where
  | malformed
  | badLevel
  | badValue (fault : Regex.PatternFault)
  /-- A place at which the text is to be cut lies within a character. -/
  | uncuttable
  deriving Repr, DecidableEq

/-- The wording of a level that is none. -/
def DirectiveFault.levelMessage : String :=
  "error parsing level filter: expected one of \"off\", \"error\", \"warn\", \"info\", " ++
    "\"debug\", \"trace\", or a number 0-5"

/-- The wordings of a fault and of the faults behind it. A fault repeats the first one behind it. -/
def DirectiveFault.chain : DirectiveFault → List String
  | .malformed => ["invalid filter directive"]
  | .badLevel => [levelMessage, levelMessage]
  | .uncuttable => ["directive cut within a character"]
  | .badValue fault => ("invalid field filter: " ++ fault.chain.headD "") :: fault.chain

namespace Directive

/-- What has been read of a directive, and what the text since some place is going to be. -/
inductive State where
  | start
  | word (since : Nat)
  | span (since : Nat)
  | field (since : Nat)
  | fields
  | target
  | level (since : Nat)
  deriving Repr, DecidableEq

/-- The directive that nothing has been read of. -/
def blank : Directive := ⟨some .trace, none, none, []⟩

/-- Whether a character may begin a directive that does not begin with a span. -/
def mayBegin (c : Char) : Bool :=
  c == '-' || c == ':' || c == '_' || Text.isAlphanumeric c

/-- The field between two places. -/
def fieldMatch (text : List Char) : Except DirectiveFault FieldMatch :=
  if text.isEmpty then .error .malformed
  else
    match Text.piecesChars '=' text with
    | name :: value :: _ =>
      match FieldValue.read (String.ofList value) with
      | .ok value => .ok ⟨String.ofList name, some value⟩
      | .error fault => .error (.badValue fault)
    | [name] => .ok ⟨String.ofList name, none⟩
    | [] => .error .malformed

/-- The threshold of a text; an empty one stands for everything. -/
def levelOf (text : List Char) : Except DirectiveFault Threshold :=
  if text.isEmpty then .ok (some .trace)
  else
    match Threshold.ofText? (String.ofList text) with
    | some threshold => .ok threshold
    | none => .error .badLevel

/-- The part of a text from one place to another. -/
def between (text : List Char) (start stop : Nat) : Except DirectiveFault (List Char) :=
  ((Text.slice? start stop text).map .ok).getD (.error .uncuttable)

/-- The part of a text behind a place. -/
def behind (text : List Char) (start : Nat) : Except DirectiveFault (List Char) :=
  ((Text.dropBytes? start text).map .ok).getD (.error .uncuttable)

/-- Reads the character at a place; what it ends is cut from the text by its places. -/
def step (text : List Char) (state : State) (directive : Directive) (place : Nat) (c : Char) :
    Except DirectiveFault (State × Directive) :=
  match state with
  | .start =>
    if c = '[' then .ok (.span (place + 1), directive)
    else if mayBegin c then .ok (.word place, directive)
    else .error .malformed
  | .word since =>
    if c = '=' ∨ c = '[' then do
      let target := some (String.ofList (← between text since place))
      let state : State := if c = '=' then .level (place + 1) else .span (place + 1)
      return (state, { directive with target })
    else .ok (state, directive)
  | .span since =>
    if c = ']' then do
      let name ← between text since place
      return (.target, { directive with span := some (String.ofList name) })
    else if c = '\x7b' then do
      let name ← between text since place
      let span := if name.isEmpty then none else some (String.ofList name)
      return (.field (place + 1), { directive with span })
    else .ok (state, directive)
  | .field since =>
    if c = '\x7d' ∨ c = ',' then do
      let field ← fieldMatch (← between text since place)
      let state : State := if c = ',' then .field (place + 1) else .fields
      return (state, { directive with fields := directive.fields ++ [field] })
    else .ok (state, directive)
  | .fields => if c = ']' then .ok (.target, directive) else .error .malformed
  | .target => if c = '=' then .ok (.level (place + 1), directive) else .error .malformed
  | .level _ => .ok (state, directive)

/-- Reads characters one after another, of which the first is at a place. -/
def steps (text : List Char) (state : State) (directive : Directive) (place : Nat) :
    List Char → Except DirectiveFault (State × Directive)
  | [] => .ok (state, directive)
  | c :: rest => do
    let (state, directive) ← step text state directive place c
    steps text state directive (place + c.utf8Size) rest

/-- Reads a directive. White space around it is passed over when characters are read, and places are
counted from the first character that is read; yet what lies between two places is cut from the whole
text. -/
def parse (text : String) : Except DirectiveFault Directive := do
  let cs := text.toList
  let (state, directive) ← steps cs .start blank 0 (Text.trimChars cs)
  match state with
  | .word since =>
    let word := String.ofList (← behind cs since)
    match Threshold.ofText? word with
    | some threshold => return { directive with threshold, target := none }
    | none => return { directive with target := some word }
  | .level since => return { directive with threshold := ← levelOf (← behind cs since) }
  | .target => return directive
  | _ => .error .malformed

end Directive

end Sluice.Log
