import Sluice.Http.Uri
import Sluice.Number.Literal
import Sluice.Resource.Failure
import Sluice.Text.Entries

/-!
# Filters of a collection

The query of a request to a collection, as texts under names. Of a repeated name the last value
counts. Every way of reading a filter reports a value that does not fit as a failure of the request.
-/

namespace Sluice.Resource

/-- Texts under names, in the order of the names, each name once. -/
structure Filters where
  entries : List (String × String)
  deriving Repr, DecidableEq

namespace Filters

/-- The filters that result from setting texts one after another. -/
def ofPairs (pairs : List (String × String)) : Filters :=
  ⟨Entries.ofPairs pairs⟩

/-- The filters that are collected from pairs at once. -/
def collect (pairs : List (String × String)) : Filters :=
  ⟨Entries.collect pairs⟩

/-- The filters in the query of a target. -/
def ofUri (uri : Http.Uri) : Filters :=
  ofPairs uri.pairs

/-- Reads a text as a text, for which every one will do. -/
def anyText (text : String) : Except String String := .ok text

/-- Reads the names and the values of pairs in their order, up to the first that does not fit. -/
def readPairs (name value : String → Except String String) (pairs : List (String × String)) :
    Except String (List (String × String)) :=
  pairs.mapM fun pair => do return (← name pair.1, ← value pair.2)

/-- Reads the filters in the query of a target. What does not fit in a query is a fault of the query
as a whole, but names and values may be any texts. -/
def read (uri : Http.Uri) : Except Failure Filters :=
  match readPairs anyText anyText uri.pairs with
  | .ok pairs => .ok (ofPairs pairs)
  | .error reason =>
    .error (.badQueryParameter "query" ("Failed to deserialize query string: " ++ reason))

/-- Any texts are read as they are. -/
theorem readPairs_anyText (pairs : List (String × String)) :
    readPairs anyText anyText pairs = .ok pairs := by
  induction pairs with
  | nil => rfl
  | cons pair rest ih =>
    rw [readPairs] at ih ⊢
    rw [List.mapM_cons, ih]
    rfl

/-- The filters of a query are always read. -/
theorem read_eq (uri : Http.Uri) : read uri = .ok (ofUri uri) := by
  rw [read, readPairs_anyText, ofUri]

/-- Whether there is no filter. -/
def isEmpty (filters : Filters) : Bool :=
  filters.entries.isEmpty

/-- The text of a name. -/
def get? (filters : Filters) (name : String) : Option String :=
  filters.entries.lookup name

/-- The text of a name that must be there and not be blank. -/
def required (filters : Filters) (name : String) : Except Failure String :=
  match filters.get? name with
  | some value => if Text.isBlankText value then .error (.missingParameter name) else .ok value
  | none => .error (.missingParameter name)

/-- The text of a name read as a value; a name that does not occur has none. The reader answers with
the reason why a text does not fit. -/
def parse {α : Type} (filters : Filters) (name : String) (read : String → Except String α) :
    Except Failure (Option α) :=
  match filters.get? name with
  | none => .ok none
  | some text =>
    match read text with
    | .ok value => .ok (some value)
    | .error reason => .error (.badQueryParameter name reason)

/-- The text of a name read as a date and time. -/
def dateTime (filters : Filters) (name : String) : Except Failure (Option Time.Moment) :=
  match filters.get? name with
  | none => .ok none
  | some text =>
    match Time.parse (Text.Utf8.encode text) with
    | .ok moment => .ok (some moment)
    | .error fault => .error (.badDateTime name fault)

/-- Reads a number from zero to a bound. -/
def natural (bound : Nat) (text : String) : Except String Nat :=
  (Number.readNatural bound text).mapError Number.ReadFault.message

/-- Reads a whole number from `-(bound + 1)` to `bound`. -/
def integer (bound : Nat) (text : String) : Except String Int :=
  (Number.readInteger bound text).mapError Number.ReadFault.message

/-- Reads a truth value. -/
def truth (text : String) : Except String Bool :=
  if text = "true" then .ok true
  else if text = "false" then .ok false
  else .error "provided string was not `true` or `false`"

/-- Reads a single character. -/
def character (text : String) : Except String Char :=
  match text.toList with
  | [c] => .ok c
  | [] => .error "cannot parse char from empty string"
  | _ => .error "too many characters in string"

/-- Reads a double. -/
def double (text : String) : Except String Number.Binary64 :=
  match Number.Literal.read? text with
  | some literal => .ok literal.toBinary64
  | none => .error (Number.Literal.faultMessage text)

end Filters

end Sluice.Resource
