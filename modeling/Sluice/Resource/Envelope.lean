import Sluice.Json.Printer
import Sluice.Text.Hex
import Sluice.Text.Utf8

/-!
# Bodies of error answers

Every error answer has the same shape: a message, details where there are any, a mark where the
details describe fields of the body of the request, and an identifier where the failure is one that
only the log explains.
-/

namespace Sluice.Resource

/-- The identifier under which the log explains a failure: 128 bits. -/
structure Incident where
  value : Nat
  deriving Repr, DecidableEq

namespace Incident

/-- The identifier as five groups of digits to base sixteen. -/
def text (incident : Incident) : String :=
  let digits := Text.Hex.padded 32 incident.value
  let group (start count : Nat) : String := String.ofList ((digits.drop start).take count)
  "-".intercalate [group 0 8, group 8 4, group 12 4, group 16 4, group 20 12]

/-- The number that digits to base sixteen spell, in either letter case. -/
def digits? (cs : List Char) : Option Nat :=
  cs.foldlM
    (fun value c =>
      if c.toNat < 128 then (Text.Hex.value? c.toNat.toUInt8).map (value * 16 + ·) else none)
    0

/-- The digits of an identifier in five groups, without the hyphens. -/
def ungrouped? (cs : List Char) : Option (List Char) :=
  let hyphens := [8, 13, 18, 23]
  if cs.length = 36 && hyphens.all (cs[·]? == some '-') then
    some ((cs.zipIdx.filter fun (_, i) => !hyphens.contains i).map (·.1))
  else none

/-- Reads an identifier: 32 digits, or five groups of them, the latter also between braces or behind
the mark of a name, whose letters may be of either case. -/
def parse? (text : String) : Option Incident :=
  let cs := text.toList
  let grouped (cs : List Char) : Option Nat := (ungrouped? cs).bind digits?
  let value :=
    if cs.length = 32 then digits? cs
    else if cs.length = 36 then grouped cs
    else if cs.length = 38 && cs.head? == some '\x7b' && cs.getLast? == some '\x7d' then
      grouped (cs.drop 1).dropLast
    else if cs.length = 45 && (cs.take 9).map Char.toLower == "urn:uuid:".toList then
      grouped (cs.drop 9)
    else none
  value.map Incident.mk

end Incident

/-- The body of an error answer. -/
structure Envelope where
  message : String
  details : Option Json.Members
  /-- Whether the details describe fields of the body of the request. -/
  fields : Bool
  incident : Option Incident
  deriving Repr, BEq

namespace Envelope

/-- A message and nothing else. -/
def plain (message : String) : Envelope := ⟨message, none, false, none⟩

/-- A message with details. -/
def withDetails (envelope : Envelope) (details : Json.Members) : Envelope :=
  { envelope with details := some details }

/-- Marks the details as describing fields. -/
def fieldErrors (envelope : Envelope) : Envelope :=
  { envelope with fields := true }

/-- The body of a failure that only the log explains. -/
def ofIncident (incident : Incident) : Envelope :=
  { plain "Internal Server Error" with incident := some incident }

/-- The members of the body, in the order in which they are written; absent parts are left out. -/
def members (envelope : Envelope) : List (String × Json) :=
  ("message", .text envelope.message) ::
    (envelope.details.map fun details => ("details", Json.object details)).toList ++
    (if envelope.fields then [("fields", .bool true)] else []) ++
    (envelope.incident.map fun incident => ("incidentIdentifier", Json.text incident.text)).toList

/-- The body as JSON text. -/
def render (envelope : Envelope) : String :=
  Json.renderInOrder envelope.members

end Envelope

end Sluice.Resource
