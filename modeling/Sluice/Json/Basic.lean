import Sluice.Number.Binary64
import Sluice.Text.Entries

/-!
# JSON values

The data that requests carry and replies return. Whole numbers stay whole; all other numbers are
doubles. The members of an object stand in the order of their keys, each key once, so two objects
with the same members are equal.
-/

namespace Sluice

/-- A number in a JSON value. -/
inductive Json.Number where
  | integer (value : Int)
  | real (value : Number.Binary64)
  deriving Repr, DecidableEq

/-- A JSON value. -/
inductive Json where
  | null
  | bool (value : Bool)
  | number (value : Json.Number)
  | text (value : String)
  | list (items : List Json)
  | object (members : List (String × Json))
  deriving Repr, BEq, Inhabited

namespace Json

/-- The members of an object. -/
abbrev Members := List (String × Json)

/-- Sets the value of a key and keeps the keys in order. -/
def Members.insert (key : String) (value : Json) (members : Members) : Members :=
  Entries.set key value members

/-- The members that result from setting keys one after another. -/
def Members.ofList (pairs : List (String × Json)) : Members :=
  Entries.ofPairs pairs

/-- The value of a key. -/
def Members.find? (members : Members) (key : String) : Option Json :=
  List.lookup key members

/-- The object with the given members. -/
def ofPairs (pairs : List (String × Json)) : Json :=
  .object (Members.ofList pairs)

/-- A whole number as a value. -/
def ofNat (n : Nat) : Json := .number (.integer n)

/-- A text or `null`. -/
def ofText? : Option String → Json
  | some value => .text value
  | none => .null

/-- The value of a key, if this is an object that has it. -/
def field? (json : Json) (key : String) : Option Json :=
  match json with
  | .object members => Members.find? members key
  | _ => none

/-- The text, if this is one. -/
def text? : Json → Option String
  | .text value => some value
  | _ => none

end Json

end Sluice
