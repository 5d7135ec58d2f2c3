import Sluice.Category.Resource
import Sluice.Proofs.Resource.BoundResource
import Sluice.Proofs.Resource.Stages

/-!
# The statements of the operations on categories

What the operations ask a database, whatever it answers. An operation asks at most two statements, and
`Category.Asks` says which ones they can be: each of them is for the office of the context, but those
of a listing, which are for the office that the listing names. Replies carry a status of success and
perhaps a body and no header fields.
-/

namespace Sluice.Database.Session

/-- Statements are kept in order. -/
theorem asked_ask (session : Session) (statement : Statement) :
    (session.ask statement).2.asked = session.asked ++ [statement] := rfl

@[simp] theorem asked_select (session : Session) (statement : Statement) :
    (session.select statement).2.asked = session.asked ++ [statement] := by
  rw [← asked_ask session statement, select]
  cases session.ask statement with
  | mk answer after => cases answer <;> rfl

@[simp] theorem asked_execute (session : Session) (statement : Statement) :
    (session.execute statement).2.asked = session.asked ++ [statement] := by
  rw [← asked_ask session statement, execute]
  cases session.ask statement with
  | mk answer after => cases answer <;> rfl

/-- A closed database is not asked for a check. -/
theorem asked_check (session : Session) :
    session.check.2.asked =
      session.asked ++ if session.closed then [] else [checkStatement] := by
  unfold check acquire
  cases session.closed with
  | true => simp
  | false => simp

end Sluice.Database.Session

namespace Sluice.Resource

open Database

/-- An action that asks no statements but those of a kind, and replies with success and without header
fields. -/
structure Action.Confined (action : Action Session) (allowed : Statement → Prop) : Prop where
  asked : ∀ session, ∃ statements, (action session).store.asked = session.asked ++ statements ∧
    ∀ statement ∈ statements, allowed statement
  bare : ∀ session reply, (action session).result = .ok reply →
    reply.headers = [] ∧ reply.status < 400

theorem Action.Confined.mono {action : Action Session} {allowed more : Statement → Prop}
    (confined : action.Confined allowed) (weaker : ∀ statement, allowed statement → more statement) :
    action.Confined more where
  asked session := by
    obtain ⟨statements, asked, each⟩ := confined.asked session
    exact ⟨statements, asked, fun statement member => weaker statement (each statement member)⟩
  bare := confined.bare

theorem Action.confined_fail (failure : Failure) (allowed : Statement → Prop) :
    (Action.fail failure : Action Session).Confined allowed where
  asked session := ⟨[], (List.append_nil _).symm, by simp⟩
  bare session reply replied := by cases replied

end Sluice.Resource

namespace Sluice.Category

open Resource Database

/-! ## Operations -/

theorem confined_find (context : Context) (id : String) :
    (find context id).Confined (· = findStatement context.office id) where
  asked session := ⟨[findStatement context.office id], Session.asked_select .., by simp⟩
  bare session reply replied := by
    simp only [find] at replied
    split at replied
    · cases replied
    · cases replied
    · cases replied
      exact ⟨rfl, (by decide : 200 < 400)⟩

theorem confined_list (context : Context) (filters : Filters) :
    (list context filters).Confined
      (· = (Listing.ofFilters filters context.office).statement) where
  asked session := ⟨[_], Session.asked_select .., by simp⟩
  bare session reply replied := by
    simp only [list] at replied
    split at replied
    · cases replied
    · cases replied
      exact ⟨rfl, (by decide : 200 < 400)⟩

/-- A command that is accepted is stored with one statement, whatever comes of it. -/
theorem asked_create {context : Context} {payload : Payload} {command : CreateCommand}
    (accepted : commandOf context.office payload = .ok command) (session : Session) :
    (create context payload session).store.asked =
      session.asked ++ [command.statement context.office] := by
  rw [← session.asked_execute, create, accepted]
  dsimp only
  split <;> next executed => rw [executed]

theorem confined_create (context : Context) (payload : Payload) :
    (create context payload).Confined fun statement =>
      ∃ command, commandOf context.office payload = .ok command ∧
        statement = command.statement context.office := by
  constructor
  case asked =>
    intro session
    cases accepted : commandOf context.office payload with
    | error failure =>
      refine ⟨[], ?_, by simp⟩
      rw [create, accepted, List.append_nil]
    | ok command => exact ⟨[_], asked_create accepted session, by simp⟩
  case bare =>
    intro session reply replied
    unfold create at replied
    split at replied
    · cases replied
    · split at replied
      · cases replied
      · cases replied
        exact ⟨rfl, by decide⟩

/-- The locations of a category are asked for with one statement. -/
theorem asked_locations (session : Session) (office id : String) :
    (locations session office id).2.asked = session.asked ++ [membersStatement office id] :=
  session.asked_select _

/-- A removal is one statement, whatever comes of it. -/
theorem asked_remove (session : Session) (office id : String) :
    (remove office id session).store.asked = session.asked ++ [removeStatement office id] := by
  rw [← session.asked_execute]
  unfold remove
  split <;> next executed => rw [executed]

/-- A deletion asks for the locations, and only where there are none for the removal as well. -/
theorem asked_delete (context : Context) (id : String) (session : Session) :
    let question := membersStatement context.office id
    let removal := removeStatement context.office id
    (delete context id session).store.asked = session.asked ++ [question] ∨
      (delete context id session).store.asked = session.asked ++ [question, removal] := by
  intro question removal
  have first := asked_locations session context.office id
  unfold delete
  cases found : locations session context.office id with
  | mk outcome after =>
    rw [found] at first
    cases outcome with
    | error error => exact .inl first
    | ok places =>
      cases places with
      | nil =>
        right
        rw [asked_remove, first, List.append_assoc]
        rfl
      | cons place rest => exact .inl first

theorem confined_delete (context : Context) (id : String) :
    (delete context id).Confined fun statement =>
      statement = membersStatement context.office id ∨
        statement = removeStatement context.office id := by
  constructor
  case asked =>
    intro session
    rcases asked_delete context id session with asked | asked
    · exact ⟨_, asked, by simp⟩
    · exact ⟨_, asked, by simp⟩
  case bare =>
    intro session reply replied
    unfold delete at replied
    split at replied
    · cases replied
    · unfold remove at replied
      split at replied
      · cases replied
      · cases replied
      · cases replied
        exact ⟨rfl, by decide⟩
    · cases replied

/-! ## The resource -/

/-- What a request for an operation of an office can have asked. -/
def Asks (office : String) (request : Request) (statement : Statement) : Operation → Prop
  | .fetchOne => ∃ id, statement = findStatement office id
  | .fetchAll => statement = (Listing.ofFilters (.ofUri request.uri) office).statement
  | .create => ∃ command, commandOf office request.carried = .ok command ∧
      statement = command.statement office
  | .update => False
  | .delete => ∃ id, statement = membersStatement office id ∨ statement = removeStatement office id

/-- The bindings are those of one bound resource. -/
theorem mem_bindings_of_registry {policy : AccessPolicy} {registry : Registry Session}
    (built : Category.registry policy = .ok registry) {binding : Binding Session}
    (member : binding ∈ registry.bindings) :
    ∃ resource : BoundResource Session, resource.handler = handler ∧
      ∃ operation, binding = resource.binding operation := by
  simp only [Category.registry, Registry.register, bind, Except.bind] at built
  cases bound : Binding.ofResource template handler policy with
  | error fault =>
    rw [bound] at built
    cases built
  | ok bindings =>
    rw [bound] at built
    dsimp only at built
    split at built
    · cases built
    · obtain rfl := Except.ok.inj built
      obtain ⟨resource, _, isHandler, _, rfl⟩ := BoundResource.ofResource_eq_ok_iff.mp bound
      exact ⟨resource, isHandler, BoundResource.mem_bindings.mp member⟩

/-- The bindings of the resource are confined to the statements of their operations. -/
theorem confined_binding {policy : AccessPolicy} {registry : Registry Session}
    (built : Category.registry policy = .ok registry) {binding : Binding Session}
    (member : binding ∈ registry.bindings) (context : Context) (identifier : String)
    (request : Request) :
    (binding.invocation.act context identifier request).Confined fun statement =>
      Asks context.office request statement binding.operation := by
  obtain ⟨resource, isHandler, operation, rfl⟩ := mem_bindings_of_registry built member
  rw [BoundResource.operation_binding, BoundResource.binding, Binding.ofOperation, isHandler]
  cases operation with
  | fetchOne => exact (confined_find context identifier).mono fun _ asks => ⟨identifier, asks⟩
  | fetchAll => exact confined_list context _
  | create => exact confined_create context _
  | update => exact Action.confined_fail ..
  | delete => exact (confined_delete context identifier).mono fun _ asks => ⟨identifier, asks⟩

end Sluice.Category
