import Sluice.Json.Record
import Sluice.Resource.Failure
import Sluice.Text.Split

/-!
# Bodies of requests

The body of a create or an update with its declared content type. A body that is declared to be
anything but JSON is refused; one without a declaration is taken for JSON.
-/

namespace Sluice.Resource

/-- A body and its declared content type. -/
structure Payload where
  contentType : Option String
  body : List UInt8
  deriving Repr, DecidableEq

namespace Payload

/-- The media type of a content type: the text before the parameters. -/
def essence (contentType : String) : String :=
  Text.trim (Text.cut ';' contentType).1

/-- Whether a content type declares JSON. The plain type may come in any letter case; the suffix of
types built on JSON may not. -/
def declaresJson (contentType : String) : Bool :=
  let media := essence contentType
  media.map Char.toLower == "application/json" || "+json".toList.isSuffixOf media.toList

/-- A body that cannot be read, without details. -/
def refused (message : String) : Failure := .badBody message none

/-- Reads the body as JSON of some shape. -/
def json {α : Type} (payload : Payload) (reader : Json.Reader α) : Except Failure α :=
  let undeclared := payload.contentType.filter (!declaresJson ·)
  match undeclared with
  | some contentType => .error (refused ("unsupported content type '" ++ contentType ++ "'"))
  | none =>
    if payload.body.isEmpty then .error (refused "request body is empty")
    else (Json.Reader.whole reader payload.body).mapError Failure.ofRefusal

end Payload

end Sluice.Resource
