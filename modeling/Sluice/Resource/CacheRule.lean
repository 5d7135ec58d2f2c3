import Sluice.Http.Response
import Sluice.Number.Reading
import Sluice.StartError
import Sluice.Text.Blank

/-!
# Caching of successful reads

A cache rule says for how long the answer to a read may be kept. The rule is a default: an answer
that says something about caching is left alone.
-/

namespace Sluice.Resource

/-- A unit of time. -/
inductive TimeUnit where
  | seconds
  | minutes
  | hours
  | days
  deriving Repr, DecidableEq

/-- The number of seconds in a unit. -/
def TimeUnit.inSeconds : TimeUnit → Nat
  | .seconds => 1
  | .minutes => 60
  | .hours => 60 * 60
  | .days => 24 * 60 * 60

/-- The unit of the text behind a number; seconds if there is none. -/
def TimeUnit.ofSuffix? (suffix : List Char) : Option TimeUnit :=
  match suffix with
  | [] | ['s'] => some .seconds
  | ['m'] => some .minutes
  | ['h'] => some .hours
  | ['d'] => some .days
  | _ => none

/-- For how long the answer to a read may be kept. -/
structure CacheRule where
  /-- A number of up to 64 bits. -/
  duration : Nat
  unit : TimeUnit
  deriving Repr, DecidableEq

namespace CacheRule

/-- Five minutes. -/
def standard : CacheRule := ⟨5, .minutes⟩

/-- The number of seconds, at most what 64 bits hold. -/
def maxAge (rule : CacheRule) : Nat :=
  min (rule.duration * rule.unit.inSeconds) Number.max64

/-- What the header of an answer says. -/
def headerText (rule : CacheRule) : String :=
  "max-age=" ++ toString rule.maxAge

/-- The value of that header: what it says, or `no-cache` should that be no value of a field. -/
def headerValue (rule : CacheRule) : Http.HeaderValue :=
  let value := Http.HeaderValue.ofText rule.headerText
  if value.all Http.isValueByte then value else .ofText "no-cache"

/-- Reads a number and an optional unit, such as `300`, `300s`, `5m`, `1h` or `1d`. -/
def parse (text : String) : Except StartError CacheRule :=
  let cs := Text.trimChars text.toList
  let fault : StartError := .invalidCacheDuration (String.ofList cs)
  let digits := cs.takeWhile Char.isDigit
  match Number.readNatural Number.max64 (String.ofList digits) with
  | .error _ => .error fault
  | .ok duration =>
    match TimeUnit.ofSuffix? (Text.trimChars (cs.dropWhile Char.isDigit)) with
    | none => .error fault
    | some unit => .ok ⟨duration, unit⟩

/-- The name of the header that governs caching. -/
def headerName : String := "cache-control"

/-- Whether the default applies: to a read that was answered with exactly 200 and says nothing about
caching. -/
def applies (method : Http.Method) (response : Http.Response) : Bool :=
  (method == .get || method == .head) && response.status == 200 &&
    !response.headers.has headerName

/-- The response with the default where it applies. -/
def apply (rule : CacheRule) (method : Http.Method) (response : Http.Response) : Http.Response :=
  if applies method response then
    { response with headers := response.headers.set headerName rule.headerValue }
  else response

/-- Where the default does not apply, the rule does not matter. -/
theorem apply_of_not_applies {method : Http.Method} {response : Http.Response}
    (unapplied : applies method response = false) (rule : CacheRule) :
    rule.apply method response = response := by
  rw [apply, unapplied]
  rfl

end CacheRule

end Sluice.Resource
