import Sluice.Category.Basic
import Sluice.Resource.Handler

/-!
# Deleting a category

A category to which locations belong is kept, and the locations are listed. A location that is added
after the locations have been asked for is found by the database itself, which then refuses.
-/

namespace Sluice.Category

open Resource

/-- The statement that asks for the locations of a category. -/
def membersStatement (office id : String) : Database.Statement where
  sql :=
    "SELECT location_id FROM location_category_member " ++
      "WHERE office_code = $1 AND UPPER(category_id) = UPPER($2) ORDER BY location_id"
  parameters := [some office, some id]

/-- The statement that removes a category. -/
def removeStatement (office id : String) : Database.Statement where
  sql :=
    "DELETE FROM location_category WHERE office_code = $1 AND UPPER(category_id) = UPPER($2)"
  parameters := [some office, some id]

/-- The failure for a category to which locations belong. -/
def blocked (id : String) (locations : List String) : Failure :=
  .deleteBlocked (Failure.subject itemName id)
    [("locations", .list (locations.map Json.text))]

/-- The locations in rows. -/
def locationsOf (rows : List Database.Row) : Except Database.Error (List String) :=
  rows.mapM fun row => Database.textColumn row 0 "0"

/-- Asks for the locations of a category. -/
def locations (session : Database.Session) (office id : String) :
    Except Database.Error (List String) × Database.Session :=
  let (outcome, session) := session.select (membersStatement office id)
  (outcome.bind locationsOf, session)

/-- What is reported when a category has been deleted. -/
def deletedEvent (office id : String) : Log.Event :=
  .plain .info "location category deleted" [("office", office), ("id", id)]

/-- Removes a category to which no locations belong. -/
def remove (office id : String) : Action Database.Session := fun session =>
  match session.execute (removeStatement office id) with
  | (.error error, session) => ⟨.error (.database error), session, []⟩
  | (.ok 0, session) => ⟨.error (.itemNotFound itemName id), session, []⟩
  | (.ok (_ + 1), session) => ⟨.ok .noContent, session, [deletedEvent office id]⟩

/-- Deletes a category. -/
def delete (context : Context) (id : String) : Action Database.Session := fun session =>
  match locations session context.office id with
  | (.error error, session) => ⟨.error (.database error), session, []⟩
  | (.ok [], session) => remove context.office id session
  | (.ok (first :: rest), session) => ⟨.error (blocked id (first :: rest)), session, []⟩

end Sluice.Category
