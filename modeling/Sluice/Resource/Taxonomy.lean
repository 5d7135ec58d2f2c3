import Sluice.Http.Response
import Sluice.Log.Event
import Sluice.Resource.Envelope
import Sluice.Resource.Failure

/-!
# From failures to answers

A table of rows, each of which claims some failures and answers them with a status and a body. The
first row that claims a failure counts. A failure that no row claims is answered with 500 and an
identifier under which the log explains it, so nothing of it reaches the client. Error answers
describe one request and are never kept by caches.
-/

namespace Sluice.Resource

/-- Whose doing a failure is: the client's, or an expected gap of the server. -/
inductive Severity where
  | client
  | server
  deriving Repr, DecidableEq

/-- The name of a severity. -/
def Severity.name : Severity → String
  | .client => "Client"
  | .server => "Server"

/-- The level at which failures of a severity are reported. -/
def Severity.level : Severity → Log.Level
  | .client => .debug
  | .server => .warn

/-- A row of the table. -/
structure Mapping where
  name : String
  status : Nat
  severity : Severity
  /-- Whether the row claims a failure. -/
  claims : Failure → Bool
  /-- The body of the answer to a failure that the row claims. -/
  body : Failure → Envelope

namespace Taxonomy

/-- Details about one name. -/
def about (name text : String) : Json.Members :=
  [(name, .text text)]

/-- The body for input that does not fit. -/
def badRequestBody : Failure → Envelope
  | .badBody message details =>
    let envelope := Envelope.plain ("Bad Request: " ++ message)
    match details with
    | some details => envelope.withDetails details
    | none => envelope
  | .badQueryParameter name reason =>
    (Envelope.plain "Bad Request").withDetails (about name reason)
  | .missingParameter name =>
    (Envelope.plain "Bad Request").withDetails (about name "required parameter is missing")
  | .badDateTime name fault =>
    (Envelope.plain "Bad Request").withDetails
      (about name ("invalid date/time: " ++ fault.message))
  | .validation message fields => ((Envelope.plain message).withDetails fields).fieldErrors
  | other => Envelope.plain other.message

/-- The body for an item that something else refers to. Of a fault of the database only the names of
the constraint and the table are shown. -/
def deleteBlockedBody : Failure → Envelope
  | .deleteBlocked message references =>
    (Envelope.plain ("Cannot delete " ++ message)).withDetails references
  | .database (.reported fault) =>
    (Envelope.plain "Cannot delete: referenced by other records").withDetails
      ((fault.constraint.map fun name => ("constraint", Json.text name)).toList ++
        (fault.table.map fun name => ("table", Json.text name)).toList)
  | _ => Envelope.plain "Cannot delete: referenced by other records"

/-- The body for a client that is not known. -/
def unauthenticatedBody : Failure → Envelope
  | .unauthenticated reason true => .plain reason
  | _ => .plain "Unauthorized"

/-- Whether a failure lies in the input of the request. -/
def isBadRequest : Failure → Bool
  | .badBody .. | .badQueryParameter .. | .missingParameter _ | .badDateTime .. | .validation .. =>
    true
  | _ => false

/-- Whether a failure is a violation of some kind that the database reports. -/
def isReported (kind : Database.FaultKind) : Failure → Bool
  | .database (.reported fault) => fault.kind == kind
  | _ => false

/-- The rows of the table. -/
def table : List Mapping :=
  [ { name := "unsupported-format", status := 406, severity := .client
      claims := fun | .unsupportedFormat _ => true | _ => false
      body := fun failure => .plain failure.message },
    { name := "formatter-fault", status := 501, severity := .server
      claims := fun | .formatting _ => true | _ => false
      body := fun _ => .plain "Formatting error" },
    { name := "bad-request", status := 400, severity := .client
      claims := isBadRequest
      body := badRequestBody },
    { name := "unauthenticated", status := 401, severity := .client
      claims := fun | .unauthenticated .. => true | _ => false
      body := unauthenticatedBody },
    { name := "forbidden", status := 403, severity := .client
      claims := fun | .forbidden _ => true | _ => false
      body := fun _ => .plain "Not Authorized" },
    { name := "not-found", status := 404, severity := .client
      claims := fun | .notFound _ | .database .rowNotFound => true | _ => false
      body := fun _ => .plain "Not Found." },
    { name := "already-exists", status := 409, severity := .client
      claims := fun
        | .alreadyExists _ => true
        | failure => isReported .uniqueViolation failure
      body := fun _ => .plain "Already Exists." },
    { name := "delete-blocked", status := 409, severity := .client
      claims := fun
        | .deleteBlocked .. => true
        | failure => isReported .foreignKeyViolation failure
      body := deleteBlockedBody },
    { name := "not-implemented", status := 501, severity := .server
      claims := fun | .notImplemented .. => true | _ => false
      body := fun failure => .plain failure.message } ]

/-- The row that counts for a failure. -/
def find? (failure : Failure) : Option Mapping :=
  table.find? (·.claims failure)

end Taxonomy

/-- The answer to a failure and what is reported about it. -/
structure Ruling where
  status : Nat
  envelope : Envelope
  /-- The name of the row that counted. -/
  mapping : String
  incident : Option Incident
  event : Log.Event

namespace Ruling

/-- The name that stands for the row of a failure that no row claims. -/
def unhandled : String := "unhandled"

/-- What is reported about a failure that a row claims. -/
def failedEvent (mapping : Mapping) (failure : Failure) : Log.Event :=
  .plain mapping.severity.level "request failed"
    [("mapping", mapping.name), ("status", toString mapping.status), ("error", failure.message)]

/-- What is reported about a failure that no row claims. -/
def unhandledEvent (incident : Incident) (failure : Failure) : Log.Event :=
  .plain .error "unhandled failure"
    [("incident", incident.text), ("error", failure.inspected)]

/-- Rules on a failure; the incident is used if no row claims it. -/
def of (incident : Incident) (failure : Failure) : Ruling :=
  match Taxonomy.find? failure with
  | some mapping =>
    { status := mapping.status
      envelope := mapping.body failure
      mapping := mapping.name
      incident := none
      event := failedEvent mapping failure }
  | none =>
    { status := 500
      envelope := .ofIncident incident
      mapping := unhandled
      incident := some incident
      event := unhandledEvent incident failure }

/-- The response of a ruling. -/
def toResponse (ruling : Ruling) : Http.Response :=
  let response := Http.Response.json ruling.status ruling.envelope.render
  { response with headers := response.headers.setText "cache-control" "no-store" }

end Ruling

end Sluice.Resource
