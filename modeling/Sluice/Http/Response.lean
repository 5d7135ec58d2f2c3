import Sluice.Http.Method

/-!
# Responses

A response is a status, header fields and a body. The server only sends text; where a client asks for
a content coding, the body is the text together with the coding in which it is sent.
-/

namespace Sluice.Http

/-- A content coding that the server can produce. -/
inductive Coding where
  | deflate
  | gzip
  | brotli
  | zstandard
  deriving Repr, DecidableEq

/-- The body of a response. -/
inductive Body where
  | plain (text : String)
  | coded (coding : Coding) (text : String)
  deriving Repr, DecidableEq

/-- The empty body. -/
def Body.none : Body := .plain ""

/-- The text of a body, whatever its coding. -/
def Body.text : Body → String
  | .plain text => text
  | .coded _ text => text

/-- The number of bytes of a body that is sent as it is. -/
def Body.size? : Body → Option Nat
  | .plain text => some text.utf8ByteSize
  | .coded _ _ => Option.none

/-- The answer to a request. -/
structure Response where
  status : Nat
  headers : Headers
  body : Body
  deriving Repr, DecidableEq

namespace Response

/-- A response without a body. -/
def empty (status : Nat) : Response := ⟨status, [], .none⟩

/-- A response with a body of JSON text. -/
def json (status : Nat) (text : String) : Response :=
  ⟨status, [⟨"content-type", .ofText "application/json"⟩], .plain text⟩

/-- The response with its length stated, unless it is stated already or not known. -/
def withLength (response : Response) : Response :=
  match response.body.size? with
  | some size =>
    { response with
      headers := response.headers.setIfAbsent "content-length" (.ofText (toString size)) }
  | none => response

/-- The response without its body. -/
def withoutBody (response : Response) : Response :=
  { response with body := .none }

end Response

end Sluice.Http
