import Sluice.Proofs.Resource.Denial

/-!
# What answers disclose of failures

Much of the wording of a failure is for the log alone: reasons, names of items, messages of the
database and of whatever else went wrong inside. `Failure.group?` says how much of such a failure a
client is meant to learn, and `Group.response` is the answer as a function of that. Two failures of one
group are therefore told apart by nothing in their answers, neither when they are ruled on nor when
two dispatches of any two servers fail with them. The identifier of the incident is the one thing that
differs from answer to answer, and only where the failure is unexpected.
-/

namespace Sluice.Resource

/-- What a client may learn of a failure whose wording is kept from it. -/
inductive Failure.Group where
  | formatting
  | hiddenReason
  | forbidden
  | missing
  | existing
  | unexpected
  /-- A conflict with other records, by the names of the constraint and the table. -/
  | referenced (constraint table : Option String)
  deriving Repr, DecidableEq

namespace Failure

/-- The group of a fault of a database. -/
def databaseGroup : Database.Error → Group
  | .rowNotFound => .missing
  | .reported fault =>
    match fault.kind with
    | .uniqueViolation => .existing
    | .foreignKeyViolation => .referenced fault.constraint fault.table
    | .notNullViolation | .checkViolation | .other => .unexpected
  | _ => .unexpected

/-- The group of a failure, unless its wording is meant for the client. -/
def group? : Failure → Option Group
  | .formatting _ => some .formatting
  | .unauthenticated _ false => some .hiddenReason
  | .forbidden _ => some .forbidden
  | .notFound _ => some .missing
  | .alreadyExists _ => some .existing
  | .database error => some (databaseGroup error)
  | .internal _ _ => some .unexpected
  | _ => none

namespace Group

/-- The status that a group is answered with. -/
def status : Group → Nat
  | .formatting => 501
  | .hiddenReason => 401
  | .forbidden => 403
  | .missing => 404
  | .existing | .referenced _ _ => 409
  | .unexpected => 500

/-- The body that a group is answered with. -/
def envelope (incident : Incident) : Group → Envelope
  | .formatting => .plain "Formatting error"
  | .hiddenReason => .plain "Unauthorized"
  | .forbidden => .plain "Not Authorized"
  | .missing => .plain "Not Found."
  | .existing => .plain "Already Exists."
  | .unexpected => .ofIncident incident
  | .referenced constraint table =>
    (Envelope.plain "Cannot delete: referenced by other records").withDetails
      ((constraint.map fun name => ("constraint", Json.text name)).toList ++
        (table.map fun name => ("table", Json.text name)).toList)

/-- The answer to every failure of a group. -/
def response (incident : Incident) (group : Group) : Http.Response :=
  ⟨group.status, errorHeaders, .plain (group.envelope incident).render⟩

/-- The incident is shown in the unexpected group alone. -/
theorem response_eq_of_ne {group : Group} (expected : group ≠ .unexpected)
    (incident other : Incident) : group.response incident = group.response other := by
  cases group with
  | unexpected => exact absurd rfl expected
  | formatting | hiddenReason | forbidden | missing | existing | referenced _ _ => rfl

end Group

/-- The unexpected group is that of the failures which no row of the table claims. -/
theorem group?_eq_unexpected_iff (failure : Failure) :
    failure.group? = some .unexpected ↔ Taxonomy.find? failure = none := by
  rw [Taxonomy.find?_eq_none_iff]
  cases failure with
  | database error =>
    cases error with
    | reported fault =>
      obtain ⟨kind, message, constraint, table, inspected⟩ := fault
      cases kind <;> simp [group?, databaseGroup, Taxonomy.IsUnexpected]
    | rowNotFound => simp [group?, databaseGroup, Taxonomy.IsUnexpected]
    | _ => simp [group?, databaseGroup, Taxonomy.IsUnexpected]
  | unauthenticated reason exposed => cases exposed <;> simp [group?, Taxonomy.IsUnexpected]
  | _ => simp [group?, Taxonomy.IsUnexpected]

end Failure

open Failure

/-- A failure is ruled on as its group is. -/
theorem Ruling.of_group {failure : Failure} {group : Group} (grouped : failure.group? = some group)
    (incident : Incident) :
    (of incident failure).status = group.status ∧
      (of incident failure).envelope = group.envelope incident := by
  cases failure with
  | database error =>
    cases error with
    | reported fault =>
      obtain ⟨kind, message, constraint, table, inspected⟩ := fault
      cases kind <;> cases grouped <;> exact ⟨rfl, rfl⟩
    | _ => cases grouped; exact ⟨rfl, rfl⟩
  | unauthenticated reason exposed =>
    cases exposed with
    | false => cases grouped; exact ⟨rfl, rfl⟩
    | true => cases grouped
  | formatting | forbidden | notFound | alreadyExists | internal =>
    cases grouped
    exact ⟨rfl, rfl⟩
  | _ => cases grouped

/-- A failure is answered as its group is. -/
theorem Ruling.toResponse_of_group {failure : Failure} {group : Group}
    (grouped : failure.group? = some group) (incident : Incident) :
    (of incident failure).toResponse = group.response incident := by
  obtain ⟨status, envelope⟩ := of_group grouped incident
  rw [toResponse_eq, status, envelope]
  rfl

namespace Run

variable {σ : Type}

/-- The failure that settles a run: the first fault that its stages find, or what its operation fails
with. -/
def failure? (run : Run σ) (engine : Engine σ) : Option Failure :=
  match Stage.firstFault? engine run.binding run.identifier run.request run.shared.store with
  | some (_, failure) => some failure
  | none =>
    match (run.binding.invocation.act ⟨engine.office, run.request.caller⟩
        (run.identifier.getD "") run.request run.shared.store).result with
    | .ok _ => none
    | .error failure => some failure

/-- A run that fails is answered with the ruling on its failure. -/
theorem response_of_failure {run : Run σ} {engine : Engine σ} {failure : Failure}
    (failed : run.failure? engine = some failure) :
    (run.exchange engine).response = (Ruling.of run.incident failure).toResponse := by
  have settled := dispatch_settled engine run.binding run.identifier run.request run.incident
    run.shared
  unfold failure? at failed
  cases found : Stage.firstFault? engine run.binding run.identifier run.request
      run.shared.store with
  | some fault =>
    simp only [found] at settled failed
    cases failed
    exact settled.response
  | none =>
    simp only [found] at settled failed
    have answered := settled.response
    cases result : (run.binding.invocation.act ⟨engine.office, run.request.caller⟩
        (run.identifier.getD "") run.request run.shared.store).result with
    | ok reply =>
      rw [result] at failed
      cases failed
    | error other =>
      rw [result] at failed answered
      cases failed
      exact answered

end Run

/-- Failures of one group are answered alike. For one incident their answers are equal, and outside the
unexpected group, which is that of all failures that no row claims, for any two incidents. The same
holds of what any two dispatches answer that fail with them. -/
theorem wording_undisclosed {first second : Failure} {group : Group}
    (isFirst : first.group? = some group) (isSecond : second.group? = some group) :
    (∀ incident,
      (Ruling.of incident first).toResponse = (Ruling.of incident second).toResponse) ∧
    (group ≠ .unexpected → ∀ incident other,
      (Ruling.of incident first).toResponse = (Ruling.of other second).toResponse) ∧
    (∀ failure : Failure,
      failure.group? = some .unexpected ↔ Taxonomy.find? failure = none) ∧
    ∀ (σ τ : Type) (run : Run σ) (engine : Engine σ) (run' : Run τ) (engine' : Engine τ),
      run.failure? engine = some first → run'.failure? engine' = some second →
      run.incident = run'.incident ∨ group ≠ .unexpected →
        (run.exchange engine).response = (run'.exchange engine').response := by
  refine ⟨?alike, ?whatever, group?_eq_unexpected_iff, ?dispatched⟩
  case alike =>
    intro incident
    rw [Ruling.toResponse_of_group isFirst, Ruling.toResponse_of_group isSecond]
  case whatever =>
    intro expected incident other
    rw [Ruling.toResponse_of_group isFirst, Ruling.toResponse_of_group isSecond]
    exact Group.response_eq_of_ne expected incident other
  case dispatched =>
    intro σ τ run engine run' engine' failed failed' sameOrExpected
    rw [Run.response_of_failure failed, Run.response_of_failure failed',
      Ruling.toResponse_of_group isFirst, Ruling.toResponse_of_group isSecond]
    rcases sameOrExpected with same | expected
    · rw [same]
    · exact Group.response_eq_of_ne expected _ _

/-- Two conflicts with one constraint are answered alike, whatever the database says about them. -/
theorem conflicts_undisclosed :
    let conflict (message : String) : Failure :=
      .database (.reported ⟨.foreignKeyViolation, message, some "member_category_fk", none, message⟩)
    let first := conflict "update or delete violates a constraint"
    let second := conflict "Key (office_code)=(SPK) is still referenced"
    let group : Group := .referenced (some "member_category_fk") none
    first.group? = some group ∧ second.group? = some group ∧ group ≠ .unexpected ∧
      ∀ incident other,
        (Ruling.of incident first).toResponse = (Ruling.of other second).toResponse := by
  intro conflict first second group
  have isFirst : first.group? = some group := rfl
  have isSecond : second.group? = some group := rfl
  have expected : group ≠ .unexpected := by decide
  exact ⟨isFirst, isSecond, expected, (wording_undisclosed isFirst isSecond).2.1 expected⟩

end Sluice.Resource
