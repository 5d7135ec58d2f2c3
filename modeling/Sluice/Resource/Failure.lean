import Sluice.Database.Error
import Sluice.Json.Fault
import Sluice.Resource.Operation
import Sluice.Text.Split
import Sluice.Time.Rfc3339

/-!
# Failures of requests

Everything that can go wrong while a request is served, as causes. What a client gets to see of a
failure is decided elsewhere; the wording here is for the log.
-/

namespace Sluice.Resource

/-- Why a request was not served. -/
inductive Failure where
  /-- No format that the client accepts can be produced. -/
  | unsupportedFormat (requested : String)
  /-- The answer cannot be written. -/
  | formatting (text : String)
  | badBody (message : String) (details : Option Json.Members)
  | badQueryParameter (name reason : String)
  | missingParameter (name : String)
  | badDateTime (name : String) (fault : Time.Fault)
  /-- Fields of the body that do not hold what they must. -/
  | validation (message : String) (fields : Json.Members)
  /-- The client is not known; the reason is shown only if it may be. -/
  | unauthenticated (reason : String) (exposed : Bool)
  | forbidden (reason : String)
  | notFound (subject : String)
  | alreadyExists (subject : String)
  /-- Something else refers to what should be deleted. -/
  | deleteBlocked (message : String) (references : Json.Members)
  | notImplemented (operation : Operation) (resource : String)
  | database (error : Database.Error)
  /-- Anything else, from the outermost description to the innermost cause. -/
  | internal (description : String) (causes : List String)
  deriving Repr, BEq

namespace Failure

/-- The wording of a failure in the log. -/
def message : Failure → String
  | .unsupportedFormat requested => "no acceptable representation for '" ++ requested ++ "'"
  | .formatting text => "failed to format response: " ++ text
  | .badBody message _ => "bad request body: " ++ message
  | .badQueryParameter name reason =>
    "bad value for query parameter '" ++ name ++ "': " ++ reason
  | .missingParameter name => "missing required parameter '" ++ name ++ "'"
  | .badDateTime name fault => "bad date/time for '" ++ name ++ "': " ++ fault.message
  | .validation message _ => "validation failed: " ++ message
  | .unauthenticated reason _ => "unauthenticated: " ++ reason
  | .forbidden reason => "forbidden: " ++ reason
  | .notFound subject => subject ++ " not found"
  | .alreadyExists subject => subject ++ " already exists"
  | .deleteBlocked message _ => "cannot delete " ++ message
  | .notImplemented operation resource =>
    operation.name ++ " is not implemented for " ++ resource
  | .database error => "database error: " ++ error.message
  | .internal description _ => description

/-- A text in lines of its own, the first behind a mark and the others behind blanks. -/
def setOff (mark blanks text : String) : String :=
  mark ++ ("\n" ++ blanks).intercalate (Text.pieces '\n' text)

/-- Causes below one another, numbered if there are several. -/
def listed (causes : List String) : List String :=
  match causes with
  | [cause] => [setOff "    " "    " cause]
  | causes => causes.mapIdx fun number cause =>
    let digits := toString number
    setOff ("".pushn ' ' (5 - digits.length) ++ digits ++ ": ") "       " cause

/-- A description with the causes behind it. -/
def withCauses (description : String) (causes : List String) : String :=
  if causes.isEmpty then description
  else "\n".intercalate ((description ++ "\n\nCaused by:") :: listed causes)

/-- A failure with all its parts, for the log. Only the two kinds that hold what comes from elsewhere
are ever shown so; the wording of the others says all there is. -/
def inspected : Failure → String
  | .database error => "Database(" ++ error.inspected ++ ")"
  | .internal description causes => "Internal(" ++ withCauses description causes ++ ")"
  | other => other.message

/-- What an item of a resource is called in failures. -/
def subject (resource identifier : String) : String :=
  resource ++ " '" ++ identifier ++ "'"

/-- An item that does not exist. -/
def itemNotFound (resource identifier : String) : Failure :=
  .notFound (subject resource identifier)

/-- An item that exists already. -/
def itemExists (resource identifier : String) : Failure :=
  .alreadyExists (subject resource identifier)

/-- A body that cannot be read as JSON, with the place of the fault. -/
def ofRefusal (refusal : Json.Refusal) : Failure :=
  .badBody refusal.message
    (some (Json.Members.ofList
      [("line", .ofNat refusal.place.line), ("column", .ofNat refusal.place.column)]))

end Failure

end Sluice.Resource
