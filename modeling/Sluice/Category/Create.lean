import Sluice.Category.Basic
import Sluice.Resource.Handler

/-!
# Creating a category

The body of the request names the category and may describe it. It may also name the office, which
must then be the one that the request is for. All fields that do not hold what they must are reported
together.
-/

namespace Sluice.Category

open Resource

/-- What is to be created. -/
structure CreateCommand where
  officeId : Option String
  id : String
  description : Option String
  deriving Repr, DecidableEq

namespace CreateCommand

/-- The shape of the body, in which the office may be left out; no further members are allowed. -/
def shape : Json.Reader.Shape (Partial (Option String)) CreateCommand where
  name := "CreateCategoryCommand"
  fields := [officeField true optionalText, idField, descriptionField]
  strict := true
  start := {}
  finish held :=
    match held.id with
    | none => .error (.missingField "id")
    | some id => .ok ⟨held.officeId.getD none, id, held.description.getD none⟩

/-- The greatest number of characters of an identifier. -/
def maxIdLength : Nat := 32

/-- The greatest number of characters of a description. -/
def maxDescriptionLength : Nat := 128

/-- What is said of a field with too many characters. -/
def tooLong (limit : Nat) : String :=
  "must be at most " ++ toString limit ++ " characters"

/-- What is wrong with the identifier. -/
def idFault (command : CreateCommand) : Option String :=
  let id := Text.trim command.id
  if id.isEmpty then some "is required"
  else if maxIdLength < id.length then some (tooLong maxIdLength)
  else none

/-- What is wrong with the description. -/
def descriptionFault (command : CreateCommand) : Option String :=
  match command.description with
  | some text => if maxDescriptionLength < text.length then some (tooLong maxDescriptionLength) else none
  | none => none

/-- What is wrong with the office, where the letter case of ASCII letters does not matter. -/
def officeFault (command : CreateCommand) (office : String) : Option String :=
  match command.officeId with
  | some text =>
    if (Text.trim text).map Char.toLower = office.map Char.toLower then none
    else some ("must be " ++ office)
  | none => none

/-- Everything that is wrong with a command, under the names of the fields. -/
def faults (command : CreateCommand) (office : String) : List (String × String) :=
  (command.idFault.map fun text => ("id", text)).toList ++
    (command.descriptionFault.map fun text => ("description", text)).toList ++
    ((command.officeFault office).map fun text => ("office-id", text)).toList

/-- Checks a command in an office. -/
def validate (command : CreateCommand) (office : String) : Except Failure Unit :=
  let faults := command.faults office
  if faults.isEmpty then .ok ()
  else
    .error
      (.validation "Invalid location category"
        (Json.Members.ofList (faults.map fun (name, text) => (name, Json.text text))))

/-- The statement that stores what is to be created. -/
def statement (command : CreateCommand) (office : String) : Database.Statement where
  sql :=
    "INSERT INTO location_category (office_code, category_id, description) VALUES ($1, $2, $3)"
  parameters := [some office, some (Text.trim command.id), command.description]

/-- What is reported when a category has been created. -/
def createdEvent (command : CreateCommand) (office : String) : Log.Event :=
  .plain .info "location category created" [("office", office), ("id", command.id)]

end CreateCommand

/-- The command in a body, checked. -/
def commandOf (office : String) (payload : Payload) : Except Failure CreateCommand := do
  let command ← payload.json CreateCommand.shape.reader
  command.validate office
  return command

/-- Creates a category. -/
def create (context : Context) (payload : Payload) : Action Database.Session := fun session =>
  match commandOf context.office payload with
  | .error failure => ⟨.error failure, session, []⟩
  | .ok command =>
    match session.execute (command.statement context.office) with
    | (.error error, session) => ⟨.error (.database error), session, []⟩
    | (.ok _, session) => ⟨.ok .created, session, [command.createdEvent context.office]⟩

end Sluice.Category
