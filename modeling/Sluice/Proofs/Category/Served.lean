import Sluice.Category.Create
import Sluice.Category.Find
import Sluice.Proofs.Json.RecordText

/-!
# Categories that are served

A category is served as an object, from which the same category can be read and which may be sent
again to create it. Both shapes know the members of that object, and an absent description is none of
them.
-/

namespace Sluice.Category

open Text.Utf8 (encodeChars)
open Json (Reads Takes reads_field reads_textValue reads_optional_textValue whole_render_of_takes)
open Resource

variable {category : Category}

/-! ## What is written -/

/-- The fields of a category under their names; an absent description is left out. -/
def texts (category : Category) : List (String × String) :=
  [("office-id", category.officeId), ("id", category.id)] ++
    (category.description.map fun text => ("description", text)).toList

/-- A category as an operation has it to say. -/
def draft (category : Category) : Draft :=
  .map (category.texts.map fun field => (.text field.1, .text field.2))

/-- The members of a category as they are written, in the order of their keys. -/
def sortedMembers (category : Category) : Json.Members :=
  (category.description.map fun text => ("description", Json.text text)).toList ++
    [("id", .text category.id), ("office-id", .text category.officeId)]

/-- Texts under names are always written. -/
theorem entriesToJson_texts (fields : List (String × String)) (written : Json.Members) :
    Draft.entriesToJson written (fields.map fun field => (.text field.1, .text field.2)) =
      .ok ((fields.map fun field => (field.1, Json.text field.2)).foldl
        (fun members pair => Entries.set pair.1 pair.2 members) written) := by
  induction fields generalizing written with
  | nil => rw [List.map_nil, Draft.entriesToJson]; rfl
  | cons field rest ih =>
    rw [List.map_cons, Draft.entriesToJson, Draft.keyText, Draft.toJson]
    exact ih _

theorem members_eq (category : Category) :
    category.members = category.texts.map fun field => (field.1, Json.text field.2) := by
  obtain ⟨officeId, id, description⟩ := category
  cases description <;> rfl

theorem toJson_draft (category : Category) : category.draft.toJson = .ok category.toJson := by
  rw [draft, Draft.toJson, entriesToJson_texts, ← members_eq]
  rfl

theorem toJson_eq (category : Category) : category.toJson = .object category.sortedMembers := by
  obtain ⟨officeId, id, description⟩ := category
  have idFirst : "id" < "office-id" := by decide
  have descriptionFirst : "description" < "id" := by decide
  cases description <;>
    simp only [toJson, members, sortedMembers, Json.ofPairs, Json.Members.ofList, Entries.ofPairs,
      Entries.set, List.cons_append, List.nil_append, List.foldl_cons, List.foldl_nil,
      Option.map_none, Option.map_some, Option.toList_none, Option.toList_some, if_pos idFirst,
      if_pos descriptionFirst]

/-- A category is replied as the object of its members. -/
theorem ok_draft (category : Category) :
    Reply.ok category.draft = .ok (.ofJson 200 category.toJson) := by
  rw [Reply.ok, Reply.json, toJson_draft]

/-! ## What is read -/

/-- A shape takes the members of a category if it takes a description, the identifier and the office one
after another. -/
theorem takes_sortedMembers {σ α : Type} (category : Category) (shape : Json.Reader.Shape σ α)
    (described identified final : Option String → σ) (starts : described none = shape.start)
    (takesDescription : ∀ text rest, Reads (shape.member shape.start "description")
      (0x3a :: encodeChars (Json.chars (.text text))) (described (some text)) rest)
    (takesId : ∀ description rest, Reads (shape.member (described description) "id")
      (0x3a :: encodeChars (Json.chars (.text category.id))) (identified description) rest)
    (takesOffice : ∀ description rest, Reads (shape.member (identified description) "office-id")
      (0x3a :: encodeChars (Json.chars (.text category.officeId))) (final description) rest) :
    Takes shape.member shape.start category.sortedMembers (final category.description) := by
  obtain ⟨officeId, id, description⟩ := category
  have named (description : Option String) : Takes shape.member (described description)
      [("id", .text id), ("office-id", .text officeId)] (final description) :=
    .cons (fun rest _ => takesId description rest)
      (.cons (fun rest _ => takesOffice description rest) (.nil _))
  cases description with
  | none => exact starts ▸ named none
  | some text => exact .cons (fun rest _ => takesDescription text rest) (named (some text))

/-- All members of a category are fields of the shape in which categories are served. -/
theorem takes_shape (category : Category) :
    Takes shape.member shape.start category.sortedMembers
      ⟨some category.officeId, some category.id, category.description.map some⟩ :=
  takes_sortedMembers category shape
    (fun description => ⟨none, none, description.map some⟩)
    (fun description => ⟨none, some category.id, description.map some⟩)
    (fun description => ⟨some category.officeId, some category.id, description.map some⟩)
    rfl
    (fun text _ => reads_field rfl rfl ((reads_optional_textValue textName text _).bind _))
    (fun _ _ => reads_field rfl rfl ((reads_textValue textName category.id _).bind _))
    (fun _ _ => reads_field rfl rfl ((reads_textValue textName category.officeId _).bind _))

/-- All members of a category are fields of a creation, where the office may be left out. -/
theorem takes_create (category : Category) :
    Takes CreateCommand.shape.member CreateCommand.shape.start category.sortedMembers
      ⟨some (some category.officeId), some category.id, category.description.map some⟩ :=
  takes_sortedMembers category CreateCommand.shape
    (fun description => ⟨none, none, description.map some⟩)
    (fun description => ⟨none, some category.id, description.map some⟩)
    (fun description => ⟨some (some category.officeId), some category.id, description.map some⟩)
    rfl
    (fun text _ => reads_field rfl rfl ((reads_optional_textValue textName text _).bind _))
    (fun _ _ => reads_field rfl rfl ((reads_textValue textName category.id _).bind _))
    (fun _ _ => reads_field rfl rfl
      ((reads_optional_textValue textName category.officeId _).bind _))

/-- A body of JSON from which a reader makes a value is read as that value. -/
theorem json_of_whole {α : Type} {reader : Json.Reader α} {members : Json.Members} {value : α}
    (reads : reader.whole (Text.Utf8.encode (Json.object members).render) = .ok value) :
    (⟨some "application/json", Text.Utf8.encode (Json.object members).render⟩ : Payload).json reader =
      .ok value := by
  have declared : (some "application/json").filter (!Payload.declaresJson ·) = none := by
    decide +kernel
  have filled : (Text.Utf8.encode (Json.object members).render).isEmpty = false := by
    rw [Text.Utf8.encode, Json.toList_render, Json.encodeChars_object]
    rfl
  simp only [Payload.json, declared, filled, reads]
  rfl

/-- Every category, with whatever texts, is replied as an object from which the same category is read
back; as the body of a creation the same object names the office, the identifier and the description
of the category. -/
theorem served_reads_back (category : Category) :
    let reply := Reply.ofJson 200 category.toJson
    let payload : Payload :=
      ⟨some "application/json", Text.Utf8.encode reply.toResponse.body.text⟩
    Reply.ok category.draft = .ok reply ∧
      payload.json shape.reader = .ok category ∧
      payload.json CreateCommand.shape.reader =
        .ok ⟨some category.officeId, category.id, category.description⟩ := by
  intro reply payload
  have sent : payload = ⟨some "application/json",
      Text.Utf8.encode (Json.object category.sortedMembers).render⟩ := by
    rw [← toJson_eq]
    rfl
  have described : (category.description.map some).getD none = category.description := by
    cases category.description <;> rfl
  refine ⟨ok_draft category, ?_, ?_⟩
  · rw [sent]
    refine json_of_whole (whole_render_of_takes category.takes_shape ?_)
    simp only [shape, described]
  · rw [sent]
    refine json_of_whole (whole_render_of_takes category.takes_create ?_)
    simp only [CreateCommand.shape, described, Option.getD_some]

end Sluice.Category
