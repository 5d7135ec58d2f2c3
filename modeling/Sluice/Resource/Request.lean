import Sluice.Http.MediaRange
import Sluice.Http.Method
import Sluice.Http.Uri
import Sluice.Resource.Caller
import Sluice.Resource.Payload

/-!
# Requests

A request as it reaches the resources: method, target, header fields and the whole body, with the
caller if something in front has identified one.
-/

namespace Sluice.Resource

/-- A request. -/
structure Request where
  method : Http.Method
  uri : Http.Uri
  headers : Http.Headers
  body : List UInt8
  caller : Option Caller
  deriving Repr

namespace Request

/-- The values of the `Accept` field that can be read. -/
def acceptValues (request : Request) : List String :=
  (request.headers.all "accept").filterMap (·.text?)

/-- Refuses a request whose client does not accept JSON, the only format of answers. -/
def negotiate (request : Request) : Except Failure Unit :=
  let values := request.acceptValues
  if Http.MediaRange.admitJson values then .ok ()
  else .error (.unsupportedFormat (", ".intercalate values))

/-- A request is negotiable exactly if the values of its `Accept` field admit JSON. -/
theorem negotiate_eq_ok_iff (request : Request) :
    request.negotiate = .ok () ↔ Http.MediaRange.admitJson request.acceptValues = true := by
  simp only [negotiate]
  split <;> simp_all

/-- The greatest size of a body that is read. -/
def maxPayloadBytes : Nat := 2 * 1024 * 1024

/-- The body with its declared content type. A content type that cannot be read counts as none. -/
def payload (request : Request) : Except Failure Payload :=
  if maxPayloadBytes < request.body.length then
    .error (Payload.refused "failed to read request body: length limit exceeded")
  else
    .ok ⟨(request.headers.first? "content-type").bind (·.text?), request.body⟩

end Request

end Sluice.Resource
