import Sluice.Database.Session
import Sluice.Json.Record

/-!
# Location categories

A category of locations belongs to an office and has an identifier and perhaps a description. It is
served and read as a JSON object, and stored as a row.
-/

namespace Sluice

/-- A category of locations. -/
structure Category where
  officeId : String
  id : String
  description : Option String
  deriving Repr, DecidableEq

namespace Category

/-- The path template of the resource. -/
def template : String := "/location/category/\x7bcategory-id\x7d"

/-- What an item is called in failures. -/
def itemName : String := "location category"

/-- The members of a category in their order; an absent description is left out. -/
def members (category : Category) : List (String × Json) :=
  [("office-id", .text category.officeId), ("id", .text category.id)] ++
    (category.description.map fun text => ("description", Json.text text)).toList

/-- A category as a value. -/
def toJson (category : Category) : Json :=
  .ofPairs category.members

/-- What has been read of a category; how the office is named is left to who asks for it. -/
structure Partial (Office : Type) where
  officeId : Option Office := none
  id : Option String := none
  description : Option (Option String) := none

/-- The name of texts in refusals. -/
def textName : String := "a string"

/-- Reads a text that may be `null`. -/
def optionalText : Json.Reader (Option String) :=
  Json.Reader.optional (Json.Reader.textValue textName)

section Fields

variable {Office : Type}

/-- The field of the identifier. -/
def idField : Json.Reader.Field (Partial Office) where
  name := "id"
  omittable := false
  isRead held := held.id.isSome
  read held := do return { held with id := some (← Json.Reader.textValue textName) }

/-- The field of the description. -/
def descriptionField : Json.Reader.Field (Partial Office) where
  name := "description"
  omittable := true
  isRead held := held.description.isSome
  read held := do return { held with description := some (← optionalText) }

/-- The field of the office, read as it is named. -/
def officeField (omittable : Bool) (office : Json.Reader Office) :
    Json.Reader.Field (Partial Office) where
  name := "office-id"
  omittable := omittable
  isRead held := held.officeId.isSome
  read held := do return { held with officeId := some (← office) }

end Fields

/-- The shape in which categories are served; further members are passed over. -/
def shape : Json.Reader.Shape (Partial String) Category where
  name := "LocationCategory"
  fields := [officeField false (Json.Reader.textValue textName), idField, descriptionField]
  strict := false
  start := {}
  finish held :=
    match held.officeId, held.id with
    | none, _ => .error (.missingField "office-id")
    | some _, none => .error (.missingField "id")
    | some officeId, some id => .ok ⟨officeId, id, held.description.getD none⟩

/-- The category in a row. -/
def ofRow (row : Database.Row) : Except Database.Error Category := do
  let officeId ← Database.textColumn row 0 "\"office_id\""
  let id ← Database.textColumn row 1 "\"id\""
  let description ← Database.optionalColumn row 2 "\"description\""
  return ⟨officeId, id, description⟩

end Category

end Sluice
