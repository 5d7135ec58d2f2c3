import Mathlib.Data.Set.Insert
import Sluice.Proofs.Category.Statements

/-!
# Databases that keep categories

What a database does with the statements about categories. `Keeper` says of any database no more than
that insertions and removals concern the categories that their columns and conditions say, if they are
not refused, and that questions concern none. Hence every statement that can be asked for an office
spares the categories of all other offices, and so do any number of them, `elsewhere_afterAll`. A list
of categories is such a database.
-/

namespace Sluice.Category

open Resource Database

/-- The statements that only ask. -/
inductive IsQuestion : Statement → Prop where
  | check : IsQuestion Session.checkStatement
  | find (office id : String) : IsQuestion (findStatement office id)
  | list (listing : Listing) : IsQuestion listing.statement
  | members (office id : String) : IsQuestion (membersStatement office id)

/-- The category that a command creates. -/
def CreateCommand.category (command : CreateCommand) (office : String) : Category :=
  ⟨office, Text.trim command.id, command.description⟩

/-- The row of a category. -/
def row (category : Category) : Row :=
  [some category.officeId, some category.id, category.description]

/-- A database that keeps categories, by what it does with statements about them. It may refuse any
statement. -/
structure Keeper where
  /-- What the database holds. -/
  State : Type
  /-- The table of categories. -/
  categories : State → Set Category
  /-- The form in which identifiers are compared. -/
  capitals : String → String
  /-- What the database holds after a statement. -/
  after : Statement → State → State
  /-- The rows that a statement finds. -/
  found : Statement → State → List Row
  /-- An insertion adds the one category whose columns it gives. -/
  insertion : ∀ (command : CreateCommand) (office : String) (state : State),
    categories (after (command.statement office) state) = categories state ∨
      categories (after (command.statement office) state) =
        insert (command.category office) (categories state)
  /-- A removal takes out the categories that its condition holds of. -/
  removal : ∀ (office id : String) (state : State),
    categories (after (removeStatement office id) state) = categories state ∨
      categories (after (removeStatement office id) state) =
        {category ∈ categories state |
          ¬(category.officeId = office ∧ capitals category.id = capitals id)}
  /-- A question changes nothing. -/
  question : ∀ (statement : Statement) (state : State),
    IsQuestion statement → categories (after statement state) = categories state
  /-- A question with a condition finds the rows of the categories that it holds of. -/
  finding : ∀ (office id : String) (state : State), ∀ columns ∈ found (findStatement office id) state,
    ∃ category ∈ categories state, category.officeId = office ∧
      capitals category.id = capitals id ∧ columns = category.row

namespace Keeper

variable (keeper : Keeper)

/-- The categories of all offices but one. -/
def elsewhere (office : String) (state : keeper.State) : Set Category :=
  {category ∈ keeper.categories state | category.officeId ≠ office}

/-- A statement leaves the categories of all offices but one as they are. -/
def Spares (office : String) (statement : Statement) : Prop :=
  ∀ state, keeper.elsewhere office (keeper.after statement state) = keeper.elsewhere office state

theorem spares_question {office : String} {statement : Statement}
    (question : IsQuestion statement) : keeper.Spares office statement := by
  intro state
  rw [elsewhere, keeper.question statement state question, elsewhere]

theorem spares_insertion (command : CreateCommand) (office : String) :
    keeper.Spares office (command.statement office) := by
  intro state
  rcases keeper.insertion command office state with refused | inserted
  · rw [elsewhere, refused, elsewhere]
  · ext category
    simp only [elsewhere, inserted, Set.mem_ofPred_eq, Set.mem_insert_iff]
    constructor
    · rintro ⟨rfl | held, other⟩
      · exact absurd rfl other
      · exact ⟨held, other⟩
    · rintro ⟨held, other⟩
      exact ⟨.inr held, other⟩

theorem spares_removal (office id : String) : keeper.Spares office (removeStatement office id) := by
  intro state
  rcases keeper.removal office id state with refused | removed
  · rw [elsewhere, refused, elsewhere]
  · ext category
    simp only [elsewhere, removed, Set.mem_ofPred_eq]
    constructor
    · rintro ⟨⟨held, _⟩, other⟩
      exact ⟨held, other⟩
    · rintro ⟨held, other⟩
      exact ⟨⟨held, fun matched => other matched.1⟩, other⟩

/-- No request has anything asked that touches another office. -/
theorem spares_of_asks {office : String} {request : Request} {statement : Statement}
    {operation : Operation} (asks : Asks office request statement operation) :
    keeper.Spares office statement := by
  cases operation with
  | fetchOne =>
    obtain ⟨id, rfl⟩ := asks
    exact keeper.spares_question (.find office id)
  | fetchAll =>
    cases asks
    exact keeper.spares_question (.list _)
  | create =>
    obtain ⟨command, _, rfl⟩ := asks
    exact keeper.spares_insertion command office
  | update => cases asks
  | delete =>
    obtain ⟨id, rfl | rfl⟩ := asks
    · exact keeper.spares_question (.members office id)
    · exact keeper.spares_removal office id

/-- What the database holds after some statements. -/
def afterAll (statements : List Statement) (state : keeper.State) : keeper.State :=
  statements.foldl (fun state statement => keeper.after statement state) state

/-- Statements that each spare the other offices do so one after another. -/
theorem elsewhere_afterAll {office : String} {statements : List Statement}
    (each : ∀ statement ∈ statements, keeper.Spares office statement) (state : keeper.State) :
    keeper.elsewhere office (keeper.afterAll statements state) = keeper.elsewhere office state := by
  induction statements generalizing state with
  | nil => rfl
  | cons statement later ih =>
    have spared := each statement List.mem_cons_self state
    have others := ih (fun other member => each other (List.mem_cons_of_mem _ member))
      (keeper.after statement state)
    exact others.trans spared

end Keeper

/-! ## A database in a list -/

/-- Whether a category is that of an office with an identifier in any letter case. -/
def isKnownAs (office id : String) (category : Category) : Bool :=
  category.officeId = office ∧ Text.upper category.id = Text.upper id

theorem isKnownAs_iff (office id : String) (category : Category) :
    isKnownAs office id category = true ↔
      category.officeId = office ∧ Text.upper category.id = Text.upper id :=
  decide_eq_true_iff

/-- The text of insertions. -/
def insertionText : String := (CreateCommand.statement ⟨none, "", none⟩ "").sql

/-- The text of removals. -/
def removalText : String := (removeStatement "" "").sql

/-- The text of questions for one category. -/
def findingText : String := (findStatement "" "").sql

/-- The text of questions for the categories of an office. -/
def listingText : String := (Listing.statement ⟨"", none⟩).sql

/-- The text of questions for the locations of a category. -/
def membersText : String := (membersStatement "" "").sql

/-- What a list of categories is after a statement: a category that is known already is not added. -/
def listAfter (statement : Statement) (state : List Category) : List Category :=
  match statement.parameters with
  | [some office, some id, description] =>
    if statement.sql = insertionText ∧ state.any (isKnownAs office id) = false then
      state ++ [⟨office, id, description⟩]
    else state
  | [some office, some id] =>
    if statement.sql = removalText then state.filter (!isKnownAs office id ·) else state
  | _ => state

/-- The rows of a list that a statement finds. -/
def listFound (statement : Statement) (state : List Category) : List Row :=
  match statement.parameters with
  | [some office, some id] =>
    if statement.sql = findingText then (state.filter (isKnownAs office id)).map row else []
  | _ => []

theorem listAfter_insertion (command : CreateCommand) (office : String) (state : List Category) :
    listAfter (command.statement office) state =
      if state.any (isKnownAs office (Text.trim command.id)) = false then
        state ++ [command.category office]
      else state := by
  have text : (command.statement office).sql = insertionText := rfl
  simp only [listAfter, text, true_and]
  rfl

theorem listAfter_removal (office id : String) (state : List Category) :
    listAfter (removeStatement office id) state = state.filter (!isKnownAs office id ·) := by
  have text : (removeStatement office id).sql = removalText := rfl
  have parameters : (removeStatement office id).parameters = [some office, some id] := rfl
  simp only [listAfter, text, parameters, if_true]

theorem listFound_find (office id : String) (state : List Category) :
    listFound (findStatement office id) state = (state.filter (isKnownAs office id)).map row := by
  have text : (findStatement office id).sql = findingText := rfl
  have parameters : (findStatement office id).parameters = [some office, some id] := rfl
  simp only [listFound, text, parameters, if_true]

/-- No question has the text of an insertion or a removal. -/
theorem listAfter_question {statement : Statement} (question : IsQuestion statement)
    (state : List Category) : listAfter statement state = state := by
  have texts : statement.sql ≠ insertionText ∧ statement.sql ≠ removalText := by
    cases question with
    | check => decide +kernel
    | find office id =>
      exact (by decide +kernel : findingText ≠ insertionText ∧ findingText ≠ removalText)
    | list listing =>
      exact (by decide +kernel : listingText ≠ insertionText ∧ listingText ≠ removalText)
    | members office id =>
      exact (by decide +kernel : membersText ≠ insertionText ∧ membersText ≠ removalText)
  unfold listAfter
  split
  · rw [if_neg fun both => texts.1 both.1]
  · rw [if_neg texts.2]
  · rfl

/-- A list of categories is a database that keeps them. -/
def Keeper.listed : Keeper where
  State := List Category
  categories state := {category | category ∈ state}
  capitals := Text.upper
  after := listAfter
  found := listFound
  insertion command office state := by
    rw [listAfter_insertion]
    split
    · right
      ext category
      simp [or_comm]
    · exact .inl rfl
  removal office id state := by
    right
    ext category
    simp only [listAfter_removal, Set.mem_ofPred_eq, List.mem_filter, ← isKnownAs_iff,
      Bool.not_eq_true', Bool.not_eq_true]
  question statement state question := by rw [listAfter_question question]
  finding office id state columns isFound := by
    rw [listFound_find, List.mem_map] at isFound
    obtain ⟨category, isKnown, rfl⟩ := isFound
    obtain ⟨held, known⟩ := List.mem_filter.mp isKnown
    obtain ⟨belongs, named⟩ := (isKnownAs_iff ..).mp known
    exact ⟨category, held, belongs, named, rfl⟩

end Sluice.Category
