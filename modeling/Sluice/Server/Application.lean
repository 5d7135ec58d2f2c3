import Sluice.Resource.Router
import Sluice.Server.ContentCoding
import Sluice.Server.CrossOrigin

/-!
# The server as a whole

The resources under the context path, the health check beside them and one answer for every other
path. Around every answer lie, from the inside out, the caller's identity (for resources, if the
headers are believed), the content coding and what browsers are told; at last the methods of the path
and the length are stated.
-/

namespace Sluice.Server

open Resource

variable {σ : Type}

/-- What a path leads to. -/
inductive Destination (σ : Type) where
  | resource (bindings : List (Binding σ))
  | health

/-- A server that is ready to serve. -/
structure Application (σ : Type) where
  engine : Engine σ
  cache : CacheRule
  trustIdentity : Bool
  cross : CrossOrigin
  table : Route.Table (Destination σ)

/-- A path without separators at its end. -/
def withoutTrailing (path : String) : String :=
  String.ofList (path.toList.reverse.dropWhile (· = '/')).reverse

/-- Whether nothing can be mounted under a path: the mark for a rest of a path stands in it. -/
def hasRestMark (path : String) : Bool :=
  path.toList.contains '*'

namespace Application

/-- The path of the health check. -/
def healthPath : String := "/health"

/-- Everything that has a path of its own. -/
def destinations (registry : Registry σ) (mount : String) : List (String × Destination σ) :=
  (registry.routesUnder mount).map (fun (route, bindings) => (route, .resource bindings)) ++
    [(healthPath, .health)]

/-- The server for some settings and resources, unless the routes cannot stand together or the
settings for browsers cannot be used. -/
def assemble? (settings : Settings) (registry : Registry σ) (source : Source σ) :
    Option (Application σ) :=
  let mount := withoutTrailing settings.server.contextPath
  let cross := CrossOrigin.ofSettings settings.origins
  if hasRestMark mount || !cross.isUsable then none
  else
    (Route.Table.build? (destinations registry mount)).map fun table =>
      { engine := ⟨source, settings.offices, settings.server.contextPath⟩
        cache := settings.cache
        trustIdentity := settings.access.trustIdentity
        cross := cross
        table := table }

/-- What is reported about a caller that the headers name. -/
def identifiedEvent (caller : Caller) : Log.Event :=
  .plain .debug "caller identified"
    [("user", caller.name), ("roles", toString caller.roles.length)]

/-- Serves a request as the caller that its headers name; headers that cannot be read are refused. -/
def identified (serve : Request → Exchange σ) (request : Request) (incident : Incident)
    (shared : Shared σ) : Exchange σ :=
  match Caller.ofHeaders request.headers with
  | .error failure =>
    let ruling := Ruling.of incident failure
    ⟨ruling.toResponse, shared, [ruling.event]⟩
  | .ok none => serve request
  | .ok (some caller) =>
    (serve { request with caller := some caller }).after [identifiedEvent caller]

/-- The answer of a resource. -/
def resourceAnswer (application : Application σ) (bindings : List (Binding σ))
    (captures : Route.Captures) (request : Request) (incident : Incident) (shared : Shared σ) :
    Exchange σ :=
  let serve (request : Request) : Exchange σ :=
    answerOn application.engine application.cache bindings captures request incident shared
  if application.trustIdentity then identified serve request incident shared else serve request

/-- The body of the answer to a health check. -/
def healthBody (status : String) : String :=
  (Json.ofPairs [("status", .text status)]).render

/-- The methods of the health check. -/
def healthMethods : String := "GET,HEAD"

/-- The answer to a health check. -/
def healthAnswer (application : Application σ) (method : Http.Method) (shared : Shared σ) :
    Exchange σ :=
  if method = .get ∨ method = .head then
    match application.engine.source.check shared with
    | (.ok _, shared) => ⟨.json 200 (healthBody "healthy"), shared, []⟩
    | (.error failure, shared) =>
      ⟨.json 503 (healthBody "unavailable"), shared,
        [.plain .error "Database health check failed" [("error", failure.message)]]⟩
  else
    ⟨.empty 405, shared, []⟩

/-- The answer to a request for any other path. -/
def missingAnswer (incident : Incident) (shared : Shared σ) : Exchange σ :=
  let ruling := Ruling.of incident (.notFound "route")
  ⟨ruling.toResponse, shared, [ruling.event]⟩

/-- The exchange as it leaves the server: coded as the client accepts it, and with what browsers are
told about it. -/
def around (application : Application σ) (request : Request) (exchange : Exchange σ) :
    Exchange σ :=
  let response := coded (request.headers.all "accept-encoding") exchange.response.withLength
  { exchange with response := application.cross.told request.headers response }

/-- The exchange with its answer changed. -/
def answering (exchange : Exchange σ) (change : Http.Response → Http.Response) : Exchange σ :=
  { exchange with response := change exchange.response }

/-- Serves a request. -/
def serve (application : Application σ) (request : Request) (incident : Incident)
    (shared : Shared σ) : Exchange σ :=
  let asked := request.method == .options
  let question : Exchange σ := ⟨application.cross.preflight request.headers, shared, []⟩
  match application.table.find? request.uri.path with
  | some (.resource bindings, captures) =>
    let exchange :=
      if asked then question
      else
        application.around request
          (application.resourceAnswer bindings captures request incident shared)
    answering exchange fun response =>
      forMethod request.method (withAllow bindings request.method response).withLength
  | some (.health, _) =>
    let exchange :=
      if asked then question
      else application.around request (application.healthAnswer request.method shared)
    answering exchange fun response =>
      let response :=
        if request.method == .get || request.method == .head then response
        else
          { response with headers := response.headers.setIfAbsent "allow" (.ofText healthMethods) }
      forMethod request.method response.withLength
  | none =>
    let exchange :=
      if asked then question
      else application.around request (missingAnswer incident shared)
    answering exchange Http.Response.withLength

end Application

end Sluice.Server
