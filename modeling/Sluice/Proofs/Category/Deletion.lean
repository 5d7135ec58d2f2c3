import Mathlib.Data.List.Forall2
import Sluice.Proofs.Category.Statements

/-!
# How deletions end

A deletion asks a database for the locations of a category and, if there are none, to remove it.
Nothing is known of the database, and between the two statements others may have changed what is in
it, so any two answers are possible. `Ending` has the five ways in which a deletion ends, and
`Ending.Follows` says which answers lead to which. There is always one, and the deletion does what it
says: it reports success only if the removal concerned a category.
-/

namespace Sluice.Database

/-! ## Answers -/

namespace Answer

/-- An answer to a question, which finds some rows. -/
def Finds (answer : Answer) (rows : List Row) : Prop :=
  answer = .rows rows ∨ rows = [] ∧ ∃ count, answer = .changed count

/-- An answer to a change, which concerns a number of rows. -/
def Concerns (answer : Answer) (count : Nat) : Prop :=
  answer = .changed count ∨ ∃ rows, answer = .rows rows ∧ rows.length = count

/-- An answer that is an error, of the database or on the way. -/
def Fails (answer : Answer) (error : Error) : Prop :=
  answer = .lost error ∨ ∃ fault, answer = .fault fault ∧ error = .reported fault

theorem concerns_or_fails (answer : Answer) :
    (∃ count, answer.Concerns count) ∨ ∃ error, answer.Fails error := by
  cases answer with
  | rows rows => exact .inl ⟨rows.length, .inr ⟨rows, rfl, rfl⟩⟩
  | changed count => exact .inl ⟨count, .inl rfl⟩
  | fault fault => exact .inr ⟨.reported fault, .inr ⟨fault, rfl, rfl⟩⟩
  | lost error => exact .inr ⟨error, .inl rfl⟩

end Answer

namespace Session

/-- The answer to the next statement. -/
def next (session : Session) : Answer :=
  session.answers.headD (.rows [])

variable {session : Session} {statement : Statement}

theorem select_eq_ok_iff {rows : List Row} :
    (session.select statement).1 = .ok rows ↔ session.next.Finds rows := by
  unfold select ask next Answer.Finds
  cases session.answers.headD (.rows []) <;> simp [eq_comm]

theorem select_eq_error_iff {error : Error} :
    (session.select statement).1 = .error error ↔ session.next.Fails error := by
  unfold select ask next Answer.Fails
  cases session.answers.headD (.rows []) <;> simp [eq_comm]

theorem execute_eq_ok_iff {count : Nat} :
    (session.execute statement).1 = .ok count ↔ session.next.Concerns count := by
  unfold execute ask next Answer.Concerns
  cases session.answers.headD (.rows []) <;> simp

theorem execute_eq_error_iff {error : Error} :
    (session.execute statement).1 = .error error ↔ session.next.Fails error := by
  unfold execute ask next Answer.Fails
  cases session.answers.headD (.rows []) <;> simp [eq_comm]

/-- The answers are used in their order. -/
theorem next_select : (session.select statement).2.next = session.answers.tail.headD (.rows []) := by
  unfold select ask next
  cases session.answers.headD (.rows []) <;> rfl

end Session

theorem textColumn_eq_ok_iff {row : Row} {index : Nat} {column text : String} :
    textColumn row index column = .ok text ↔ row[index]? = some (some text) := by
  unfold textColumn
  split <;> simp_all

end Sluice.Database

namespace Sluice.Category

open Resource Database

/-! ## Locations -/

/-- Some rows hold some locations, each in its first column. -/
def Hold (rows : List Row) (places : List String) : Prop :=
  List.Forall₂ (fun row place => row[0]? = some (some place)) rows places

theorem locationsOf_cons (row : Row) (rest : List Row) :
    locationsOf (row :: rest) =
      (textColumn row 0 "0").bind fun place => (locationsOf rest).map (place :: ·) := by
  rw [locationsOf, List.mapM_cons, ← locationsOf]
  cases textColumn row 0 "0" with
  | error error => rfl
  | ok place => cases locationsOf rest <;> rfl

theorem locationsOf_eq_ok_iff {rows : List Row} {places : List String} :
    locationsOf rows = .ok places ↔ Hold rows places := by
  induction rows generalizing places with
  | nil =>
    rw [Hold, List.forall₂_nil_left_iff]
    exact ⟨fun same => (Except.ok.inj same).symm, fun empty => empty ▸ rfl⟩
  | cons row rest ih =>
    have read (place : String) :
        row[0]? = some (some place) ↔ textColumn row 0 "0" = .ok place :=
      textColumn_eq_ok_iff.symm
    rw [Hold, List.forall₂_cons_left_iff, locationsOf_cons]
    simp only [Hold] at ih
    simp only [read, ← ih]
    cases textColumn row 0 "0" with
    | error error => simp [Except.bind]
    | ok place => cases locationsOf rest <;> simp [Except.bind, Except.map, eq_comm]

/-- Rows that do not all hold a location are at fault where the first does not. -/
theorem locationsOf_eq_error_iff {rows : List Row} {error : Error} :
    locationsOf rows = .error error ↔
      ∃ before row after places, rows = before ++ row :: after ∧ Hold before places ∧
        textColumn row 0 "0" = .error error := by
  induction rows with
  | nil =>
    refine iff_of_false (by rintro ⟨⟩) ?_
    rintro ⟨before, row, after, _, none, _⟩
    simp at none
  | cons row rest ih =>
    rw [locationsOf_cons]
    cases read : textColumn row 0 "0" with
    | error first =>
      constructor
      · intro same
        obtain rfl := Except.error.inj same
        exact ⟨[], row, rest, [], rfl, .nil, read⟩
      · rintro ⟨before, other, after, places, split, held, fault⟩
        cases held with
        | nil =>
          obtain ⟨rfl, rfl⟩ := List.cons.inj split
          rw [read] at fault
          obtain rfl := Except.error.inj fault
          rfl
        | cons holds _ =>
          obtain ⟨rfl, _⟩ := List.cons.inj split
          rw [textColumn_eq_ok_iff.mpr holds] at read
          cases read
    | ok place =>
      have later : (Except.ok place).bind (fun place => (locationsOf rest).map (place :: ·)) =
          .error error ↔ locationsOf rest = .error error := by
        cases locationsOf rest <;> simp [Except.bind, Except.map]
      rw [later, ih]
      constructor
      · rintro ⟨before, other, after, places, rfl, held, fault⟩
        exact ⟨row :: before, other, after, place :: places, rfl,
          .cons (textColumn_eq_ok_iff.mp read) held, fault⟩
      · rintro ⟨before, other, after, places, split, held, fault⟩
        cases held with
        | nil =>
          obtain ⟨rfl, rfl⟩ := List.cons.inj split
          rw [read] at fault
          cases fault
        | cons _ others =>
          obtain ⟨rfl, rfl⟩ := List.cons.inj split
          exact ⟨_, other, after, _, rfl, others, fault⟩

end Sluice.Category

namespace Sluice.Database.Answer

open Category

/-- An answer that lists locations. -/
def Lists (answer : Answer) (places : List String) : Prop :=
  ∃ rows, answer.Finds rows ∧ Hold rows places

/-- An answer that lists no locations, not even none: it is an error, or the first row that does not
hold a location is one. -/
def Withholds (answer : Answer) (error : Error) : Prop :=
  answer.Fails error ∨
    ∃ before row after places, answer.Finds (before ++ row :: after) ∧ Hold before places ∧
      textColumn row 0 "0" = .error error

theorem lists_or_withholds (answer : Answer) :
    (∃ places, answer.Lists places) ∨ ∃ error, answer.Withholds error := by
  cases answer with
  | rows rows =>
    cases read : locationsOf rows with
    | ok places => exact .inl ⟨places, rows, .inl rfl, locationsOf_eq_ok_iff.mp read⟩
    | error error =>
      obtain ⟨before, row, after, places, rfl, held, fault⟩ := locationsOf_eq_error_iff.mp read
      exact .inr ⟨error, .inr ⟨before, row, after, places, .inl rfl, held, fault⟩⟩
  | changed count => exact .inl ⟨[], [], .inr ⟨rfl, count, rfl⟩, .nil⟩
  | fault fault => exact .inr ⟨.reported fault, .inl (.inr ⟨fault, rfl, rfl⟩)⟩
  | lost error => exact .inr ⟨error, .inl (.inl rfl)⟩

end Sluice.Database.Answer

namespace Sluice.Category

open Resource Database

section Locations

variable {session : Session} {office id : String}

theorem fst_locations :
    (locations session office id).1 =
      (session.select (membersStatement office id)).1.bind locationsOf := rfl

theorem locations_eq_ok_iff {places : List String} :
    (locations session office id).1 = .ok places ↔ session.next.Lists places := by
  have finds (rows : List Row) :
      session.next.Finds rows ↔ (session.select (membersStatement office id)).1 = .ok rows :=
    Session.select_eq_ok_iff.symm
  simp only [Answer.Lists, finds, ← locationsOf_eq_ok_iff, fst_locations]
  cases (session.select (membersStatement office id)).1 <;> simp [Except.bind]

theorem locations_eq_error_iff {error : Error} :
    (locations session office id).1 = .error error ↔ session.next.Withholds error := by
  have finds (rows : List Row) :
      session.next.Finds rows ↔ (session.select (membersStatement office id)).1 = .ok rows :=
    Session.select_eq_ok_iff.symm
  have fails : session.next.Fails error ↔
      (session.select (membersStatement office id)).1 = .error error :=
    Session.select_eq_error_iff.symm
  rw [Answer.Withholds, fails, fst_locations]
  simp only [finds]
  cases (session.select (membersStatement office id)).1 with
  | error fault => simp [Except.bind]
  | ok rows =>
    rw [Except.bind, locationsOf_eq_error_iff]
    simp

/-- The removal gets the answer behind that to the question. -/
theorem next_locations :
    (locations session office id).2.next = session.answers.tail.headD (.rows []) :=
  Session.next_select

end Locations

/-- A deletion goes on to the removal if there are no locations, and ends otherwise. -/
theorem delete_eq (context : Context) (id : String) (session : Session) :
    delete context id session =
      let after := (locations session context.office id).2
      match (locations session context.office id).1 with
      | .error error => ⟨.error (.database error), after, []⟩
      | .ok [] => remove context.office id after
      | .ok places => ⟨.error (blocked id places), after, []⟩ := by
  unfold delete
  obtain ⟨outcome, after⟩ := locations session context.office id
  rcases outcome with error | places
  · rfl
  · cases places <;> rfl

/-- The number of categories that a removal concerns settles what comes of it. -/
theorem remove_eq (office id : String) (session : Session) :
    remove office id session =
      let after := (session.execute (removeStatement office id)).2
      match (session.execute (removeStatement office id)).1 with
      | .error error => ⟨.error (.database error), after, []⟩
      | .ok 0 => ⟨.error (.itemNotFound itemName id), after, []⟩
      | .ok _ => ⟨.ok .noContent, after, [deletedEvent office id]⟩ := by
  unfold remove
  obtain ⟨outcome, after⟩ := session.execute (removeStatement office id)
  rcases outcome with error | count
  · rfl
  · cases count <;> rfl

/-! ## Endings -/

/-- The locations can be read off the failure. -/
theorem blocked_injective (id : String) : Function.Injective (blocked id) := by
  intro places others same
  simp only [blocked, Failure.deleteBlocked.injEq, List.cons.injEq, Prod.mk.injEq, Json.list.injEq,
    and_true, true_and] at same
  exact List.map_injective_iff.mpr (fun _ _ => Json.text.inj) same

/-- How a deletion ends. -/
inductive Ending where
  /-- The locations could not be read. -/
  | unread (error : Error)
  /-- There are locations. -/
  | blocked (places : List String)
  /-- The removal went wrong. -/
  | failed (error : Error)
  /-- There was nothing to remove. -/
  | missing
  | deleted

namespace Ending

/-- Which ending follows from the answers to the two statements. -/
def Follows (first second : Answer) : Ending → Prop
  | .unread error => first.Withholds error
  | .blocked places => first.Lists places ∧ places ≠ []
  | .failed error => first.Lists [] ∧ second.Fails error
  | .missing => first.Lists [] ∧ second.Concerns 0
  | .deleted => first.Lists [] ∧ ∃ count, second.Concerns (count + 1)

/-- What the database is asked: the removal only after an answer that lists no location. -/
def statements (office id : String) : Ending → List Statement
  | .unread _ | .blocked _ => [membersStatement office id]
  | .failed _ | .missing | .deleted => [membersStatement office id, removeStatement office id]

/-- What comes of the request. -/
def result (id : String) : Ending → Except Failure Reply
  | .unread error | .failed error => .error (.database error)
  | .blocked places => .error (Category.blocked id places)
  | .missing => .error (.itemNotFound itemName id)
  | .deleted => .ok .noContent

/-- What is reported. -/
def events (office id : String) : Ending → List Log.Event
  | .deleted => [deletedEvent office id]
  | _ => []

/-- A deletion ends in a way. -/
structure Describes (ending : Ending) (office id : String) (session : Session)
    (outcome : Outcome Session) : Prop where
  asked : outcome.store.asked = session.asked ++ ending.statements office id
  result : outcome.result = ending.result id
  events : outcome.events = ending.events office id

/-- Whatever the database answers, some ending follows. -/
theorem exists_follows (first second : Answer) : ∃ ending : Ending, ending.Follows first second := by
  rcases first.lists_or_withholds with ⟨places, lists⟩ | ⟨error, withholds⟩
  · cases places with
    | nil =>
      rcases second.concerns_or_fails with ⟨count, concerns⟩ | ⟨error, fails⟩
      · cases count with
        | zero => exact ⟨.missing, lists, concerns⟩
        | succ count => exact ⟨.deleted, lists, count, concerns⟩
      · exact ⟨.failed error, lists, fails⟩
    | cons place others => exact ⟨.blocked (place :: others), lists, List.cons_ne_nil _ _⟩
  · exact ⟨.unread error, withholds⟩

/-- A deletion does not end in two ways: what it replies tells them apart, and of the two ways to end
in an error of the database, only one comes after a removal. -/
theorem Describes.unique {ending other : Ending} {office id : String} {session : Session}
    {outcome : Outcome Session} (describes : ending.Describes office id session outcome)
    (again : other.Describes office id session outcome) : ending = other := by
  have results := describes.result.symm.trans again.result
  have asked := List.append_cancel_left (describes.asked.symm.trans again.asked)
  cases ending with
  | unread error =>
    cases other with
    | unread => exact congrArg unread (by cases results; rfl)
    | failed => cases asked
    | _ => cases results
  | failed error =>
    cases other with
    | failed => exact congrArg failed (by cases results; rfl)
    | unread => cases asked
    | _ => cases results
  | blocked places =>
    cases other with
    | blocked others => exact congrArg blocked (blocked_injective id (Except.error.inj results))
    | _ => cases results
  | missing =>
    cases other with
    | missing => rfl
    | _ => cases results
  | deleted =>
    cases other with
    | deleted => rfl
    | _ => cases results

/-- Where no location is listed, the removal settles how the deletion ends. -/
theorem describes_of_vacant {ending : Ending} {context : Context} {id : String} {session : Session}
    (vacant : session.next.Lists [])
    (asks : ending.statements context.office id =
      [membersStatement context.office id, removeStatement context.office id])
    (removes :
      let removed := remove context.office id (locations session context.office id).2
      removed.result = ending.result id ∧ removed.events = ending.events context.office id) :
    ending.Describes context.office id session (delete context id session) := by
  rw [delete_eq, locations_eq_ok_iff.mpr vacant]
  refine ⟨?_, removes.1, removes.2⟩
  rw [asks, ← List.singleton_append, ← List.append_assoc, ← asked_locations, ← asked_remove]

/-- A deletion ends in the way that follows from the answers. -/
theorem Follows.describes {ending : Ending} {context : Context} {id : String} {session : Session}
    (follows : ending.Follows session.next (locations session context.office id).2.next) :
    ending.Describes context.office id session (delete context id session) := by
  cases ending with
  | unread error =>
    rw [delete_eq, locations_eq_error_iff.mpr follows]
    exact ⟨asked_locations .., rfl, rfl⟩
  | blocked places =>
    obtain ⟨lists, occupied⟩ := follows
    rw [delete_eq, locations_eq_ok_iff.mpr lists]
    cases places with
    | nil => exact absurd rfl occupied
    | cons first others => exact ⟨asked_locations .., rfl, rfl⟩
  | failed error =>
    obtain ⟨vacant, fails⟩ := follows
    refine describes_of_vacant vacant rfl ?_
    rw [remove_eq, Session.execute_eq_error_iff.mpr fails]
    exact ⟨rfl, rfl⟩
  | missing =>
    obtain ⟨vacant, concerns⟩ := follows
    refine describes_of_vacant vacant rfl ?_
    rw [remove_eq, Session.execute_eq_ok_iff.mpr concerns]
    exact ⟨rfl, rfl⟩
  | deleted =>
    obtain ⟨vacant, count, concerns⟩ := follows
    refine describes_of_vacant vacant rfl ?_
    rw [remove_eq, Session.execute_eq_ok_iff.mpr concerns]
    exact ⟨rfl, rfl⟩

/-- The answers lead to an ending exactly if the deletion ends that way. -/
theorem follows_iff_describes {ending : Ending} {context : Context} {id : String}
    {session : Session} :
    ending.Follows session.next (locations session context.office id).2.next ↔
      ending.Describes context.office id session (delete context id session) := by
  constructor
  · exact Follows.describes
  · intro describes
    obtain ⟨other, follows⟩ := exists_follows session.next
      (locations session context.office id).2.next
    rwa [describes.unique follows.describes]

end Ending

end Sluice.Category
