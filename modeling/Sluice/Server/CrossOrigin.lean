import Sluice.Http.Method
import Sluice.Http.Response
import Sluice.Server.Settings

/-!
# Requests of pages from elsewhere

Browsers let a page use the answers of a server only if the server names the origin of the page, or
allows all origins. Every request for the methods of a path is taken for a browser's question and
answered here, without the resource.
-/

namespace Sluice.Server

/-- The origins that may use the answers. -/
inductive AllowedOrigins where
  | every
  | listed (origins : List Http.HeaderValue)
  deriving Repr, DecidableEq

/-- What browsers are told. -/
structure CrossOrigin where
  origins : AllowedOrigins
  credentials : Bool
  deriving Repr, DecidableEq

namespace CrossOrigin

/-- The mark that allows all origins. -/
def wildcard : String := "*"

/-- What settings allow: no origin at all and the mark allow all of them. Credentials are not allowed
next to the mark. -/
def ofSettings (settings : OriginSettings) : CrossOrigin where
  origins :=
    if settings.allowed.isEmpty || settings.allowed.contains wildcard then .every
    else
      .listed ((settings.allowed.map Http.HeaderValue.ofText).filter (·.all Http.isValueByte))
  credentials := settings.credentials && !settings.allowed.contains wildcard

/-- Whether this can be told to browsers: all origins together with credentials cannot. -/
def isUsable (cross : CrossOrigin) : Bool :=
  !(cross.credentials && cross.origins == .every)

/-- The origin that an answer allows to a request with some fields. -/
def allowedFor (cross : CrossOrigin) (headers : Http.Headers) : Option Http.HeaderValue :=
  match cross.origins with
  | .every => some (.ofText wildcard)
  | .listed origins => (headers.first? "origin").filter origins.contains

/-- The fields on which the answer depends. -/
def varying : String :=
  "origin, access-control-request-method, access-control-request-headers"

/-- The answer with the fields that every answer has. -/
def shared (cross : CrossOrigin) (request : Http.Headers) (answer : Http.Headers) : Http.Headers :=
  let allowed :=
    match cross.allowedFor request with
    | some origin => answer.set "access-control-allow-origin" origin
    | none => answer
  if cross.credentials then allowed.setText "access-control-allow-credentials" "true" else allowed

/-- The answer to a browser's question. -/
def preflight (cross : CrossOrigin) (request : Http.Headers) : Http.Response :=
  let headers :=
    ((((cross.shared request []).setText "vary" varying).setText "access-control-allow-methods"
      "GET,POST,PATCH,DELETE,OPTIONS").setText "access-control-allow-headers"
      "accept,content-type,authorization,x-cda-user,x-cda-roles").setText "access-control-max-age"
      "3600"
  ⟨200, headers, .none⟩

/-- An answer with what browsers are told about it. -/
def told (cross : CrossOrigin) (request : Http.Headers) (response : Http.Response) : Http.Response :=
  let varied := response.headers.append "vary" (.ofText varying)
  { response with
    headers := (cross.shared request varied).setText "access-control-expose-headers"
      "allow,cache-control" }

end CrossOrigin

end Sluice.Server
