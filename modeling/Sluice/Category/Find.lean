import Sluice.Category.Basic
import Sluice.Resource.Handler

/-!
# Finding a category

A category of the office of the request is found by its identifier in any letter case.
-/

namespace Sluice.Category

open Resource

/-- The statement that asks for a category. -/
def findStatement (office id : String) : Database.Statement where
  sql :=
    "SELECT office_code AS office_id, category_id AS id, description FROM location_category " ++
      "WHERE office_code = $1 AND UPPER(category_id) = UPPER($2)"
  parameters := [some office, some id]

/-- The category in the first of some rows. -/
def firstOf (rows : List Database.Row) : Except Database.Error (Option Category) :=
  match rows.head? with
  | some row => (ofRow row).map some
  | none => .ok none

/-- Finds a category. -/
def find (context : Context) (id : String) : Action Database.Session := fun session =>
  let (outcome, session) := session.select (findStatement context.office id)
  let result :=
    match outcome.bind firstOf with
    | .error error => .error (.database error)
    | .ok none => .error (.itemNotFound itemName id)
    | .ok (some category) => .ok (.ofJson 200 category.toJson)
  ⟨result, session, []⟩

end Sluice.Category
