import Sluice.Category.Basic
import Sluice.Resource.Handler
import Sluice.Text.Upper

/-!
# Listing categories

The categories of an office, which is that of the request unless the filters name another one, and of
those perhaps only the ones whose identifier is like a pattern.
-/

namespace Sluice.Category

open Resource

/-- What is listed. -/
structure Listing where
  office : String
  /-- The pattern of identifiers. -/
  like : Option String
  deriving Repr, DecidableEq

namespace Listing

/-- The trimmed text of a filter that is not blank. -/
def criterion? (filters : Filters) (name : String) : Option String :=
  (filters.get? name).bind Text.trimmed?

/-- What the filters of a request to an office ask for. -/
def ofFilters (filters : Filters) (office : String) : Listing where
  office := Text.upper ((criterion? filters "office").getD office)
  like := criterion? filters "like"

/-- The members of a listing's JSON form in their order. -/
def members (listing : Listing) : List (String × Json) :=
  ("office", .text listing.office) ::
    (listing.like.map fun text => ("like", Json.text text)).toList

/-- The statement that asks for the categories. -/
def statement (listing : Listing) : Database.Statement where
  sql :=
    "SELECT office_code AS office_id, category_id AS id, description FROM location_category " ++
      "WHERE office_code = $1 AND ($2::TEXT IS NULL OR category_id ILIKE $2) " ++
      "ORDER BY UPPER(category_id)"
  parameters := [some listing.office, listing.like]

/-- The form of a pattern in the log. -/
def likeText : Option String → String
  | some text => "Some(" ++ Text.Quoted.quote text ++ ")"
  | none => "None"

/-- What is reported before the database is asked. -/
def event (listing : Listing) : Log.Event :=
  .plain .debug "listing location categories"
    [("office", listing.office), ("like", likeText listing.like)]

end Listing

/-- Lists categories. -/
def list (context : Context) (filters : Filters) : Action Database.Session := fun session =>
  let listing := Listing.ofFilters filters context.office
  let (outcome, session) := session.select listing.statement
  let result :=
    match outcome.bind fun rows => rows.mapM ofRow with
    | .error error => .error (.database error)
    | .ok categories => .ok (.ofJson 200 (.list (categories.map toJson)))
  ⟨result, session, [listing.event]⟩

end Sluice.Category
