import Sluice.Http.Response
import Sluice.Json.Printer
import Sluice.Number.Reading
import Sluice.Resource.Failure

/-!
# Replies

The successful outcome of an operation: a status, header fields and an optional JSON body. What an
operation has to say need not fit JSON, so a body starts as a draft, whose keys may be any values and
whose numbers may be any numbers; writing it as JSON can fail.
-/

namespace Sluice.Resource

/-- What an operation has to say, before it is written as JSON. -/
inductive Draft where
  | null
  | bool (value : Bool)
  | integer (value : Int)
  | real (value : Number.Binary64)
  | text (value : String)
  | list (items : List Draft)
  | map (entries : List (Draft × Draft))
  | json (value : Json)
  deriving Repr

namespace Draft

/-- A key as text: texts, truth values, whole numbers and finite doubles have one. -/
def keyText : Draft → Except String String
  | .text value => .ok value
  | .json (.text value) => .ok value
  | .bool value => .ok (if value then "true" else "false")
  | .integer value => .ok (String.ofList (Json.integerText value))
  | .real value =>
    if value.isFinite then .ok (String.ofList (Json.realText value))
    else .error "float key must be finite (got NaN or +/-inf)"
  | _ => .error "key must be a string"

/-- Whether a whole number fits into 64 bits, with or without a sign. -/
def fits (value : Int) : Bool :=
  decide (-(Number.maxSigned64 + 1 : Int) ≤ value ∧ value ≤ Number.max64)

mutual

/-- Writes a draft as JSON. Doubles that are not finite become `null`. -/
def toJson : Draft → Except String Json
  | .null => .ok .null
  | .bool value => .ok (.bool value)
  | .integer value =>
    if fits value then .ok (.number (.integer value)) else .error "number out of range"
  | .real value => .ok (if value.isFinite then .number (.real value) else .null)
  | .text value => .ok (.text value)
  | .list items => (itemsToJson items).map .list
  | .map entries => (entriesToJson [] entries).map .object
  | .json value => .ok value

/-- Writes the items of a list. -/
def itemsToJson : List Draft → Except String (List Json)
  | [] => .ok []
  | item :: rest => do
    let first ← toJson item
    return first :: (← itemsToJson rest)

/-- Writes the entries of a map, in order; of a repeated key the last value counts. -/
def entriesToJson (written : Json.Members) : List (Draft × Draft) → Except String Json.Members
  | [] => .ok written
  | (key, value) :: rest => do
    let name ← keyText key
    let held ← toJson value
    entriesToJson (written.insert name held) rest

end

end Draft

/-- The successful outcome of an operation. -/
structure Reply where
  status : Nat
  headers : Http.Headers
  body : Option Json
  deriving Repr, BEq

namespace Reply

/-- A reply without a body. -/
def empty (status : Nat) : Reply := ⟨status, [], none⟩

/-- Something was created. -/
def created : Reply := empty 201

/-- Nothing is left to say. -/
def noContent : Reply := empty 204

/-- A reply with a body. -/
def ofJson (status : Nat) (body : Json) : Reply := ⟨status, [], some body⟩

/-- A reply with a body, if that can be written as JSON. -/
def json (status : Nat) (body : Draft) : Except Failure Reply :=
  match body.toJson with
  | .ok value => .ok (ofJson status value)
  | .error text => .error (.formatting text)

/-- A plain success with a body. -/
def ok (body : Draft) : Except Failure Reply := json 200 body

/-- Sets a header field in place of any earlier value. -/
def withHeader (reply : Reply) (name : String) (value : Http.HeaderValue) : Reply :=
  { reply with headers := reply.headers.set name value }

/-- Says how the reply may be cached. -/
def cacheControl (reply : Reply) (text : String) : Reply :=
  reply.withHeader "cache-control" (.ofText text)

/-- The response: the fields of the reply replace those that come with its body. -/
def toResponse (reply : Reply) : Http.Response :=
  let base :=
    match reply.body with
    | some body => Http.Response.json reply.status body.render
    | none => Http.Response.empty reply.status
  { base with headers := base.headers.overlay reply.headers }

end Reply

end Sluice.Resource
