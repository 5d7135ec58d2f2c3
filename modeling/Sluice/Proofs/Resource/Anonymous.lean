import Sluice.Proofs.Resource.Access
import Sluice.Proofs.Resource.Recording

/-!
# Requests of nobody

Writes of a bound resource need a role, and nobody holds one. A request without a caller is therefore
never handed to a write, and whatever the reads of a resource keep is kept by all requests without a
caller, `BoundResource.keeps_dispatchOn`. One thing that reads keep is a record of nothing but reads.
-/

namespace Sluice.Resource

variable {σ : Type}

/-- Whether an invocation keeps an invariant of the data, whatever it is called with. -/
def Invocation.Keeps (invocation : Invocation σ) (Inv : σ → Prop) : Prop :=
  ∀ context identifier request store, Inv store →
    Inv (invocation.act context identifier request store).store

/-- A request without a fault is allowed access. -/
theorem Stage.authorize_of_firstFault?_eq_none {engine : Engine σ} {binding : Binding σ}
    {identifier : Option String} {request : Request} {store : σ}
    (faultless : firstFault? engine binding identifier request store = none) :
    binding.policy.authorize binding.operation (Caller.rolesOf request.caller) = .allow := by
  have access := List.findSome?_eq_none_iff.mp faultless .access (by decide)
  rw [Option.map_eq_none_iff] at access
  simp only [fault?] at access
  split at access
  · assumption
  · cases access

namespace BoundResource

/-- Writes of a resource are denied to nobody in particular. -/
theorem authorize_nobody (resource : BoundResource σ) {operation : Operation}
    (write : operation.isRead = false) : resource.policy.authorize operation [] ≠ .allow := by
  rw [ne_eq, AccessPolicy.authorize_eq_allow_iff, AccessPolicy.ruleFor, write]
  simp [resource.roles_ne_nil]

variable {Inv : σ → Prop} {resource : BoundResource σ} {operation : Operation} {request : Request}

/-- What a read keeps is kept by every dispatch without a caller: a write is not called at all. -/
theorem keeps_dispatch (reads : operation.isRead = true →
      (resource.binding operation).invocation.Keeps Inv)
    (nobody : request.caller = none) (engine : Engine σ) (identifier : Option String)
    (incident : Incident) {shared : Shared σ} (holds : Inv shared.store) :
    Inv (dispatch engine (resource.binding operation) identifier request incident
      shared).shared.store := by
  have settled := dispatch_settled engine (resource.binding operation) identifier request incident
    shared
  cases found : Stage.firstFault? engine (resource.binding operation) identifier request
      shared.store with
  | some fault =>
    rw [found] at settled
    rw [settled.store]
    exact holds
  | none =>
    rw [found] at settled
    rw [settled.store]
    cases kind : operation.isRead with
    | true => exact reads kind _ _ _ _ holds
    | false =>
      have allowed := Stage.authorize_of_firstFault?_eq_none found
      rw [nobody] at allowed
      exact absurd allowed (resource.authorize_nobody kind)

/-- What a read keeps is kept by every request without a caller that has reached its binding. -/
theorem keeps_dispatchOn (reads : operation.isRead = true →
      (resource.binding operation).invocation.Keeps Inv)
    (nobody : request.caller = none) (engine : Engine σ) (captures : Route.Captures)
    (incident : Incident) {shared : Shared σ} (holds : Inv shared.store) :
    Inv (dispatchOn engine (resource.binding operation) captures request incident
      shared).shared.store := by
  unfold dispatchOn
  split
  · cases decodeCaptures captures with
    | ok texts => exact keeps_dispatch reads nobody engine _ incident holds
    | error name => exact holds
  · exact keeps_dispatch reads nobody engine _ incident holds

end BoundResource

/-! ## Records of nobody -/

/-- Whether only reads have been recorded. -/
def RecordsReads (store : σ × List Operation) : Prop :=
  ∀ operation ∈ store.2, operation.isRead = true

/-- A read that is recorded, or a stand-in for it, adds nothing but a read to the record. -/
theorem BoundResource.recording_keeps (resource : BoundResource σ) {operation : Operation}
    (read : operation.isRead = true) :
    (resource.recording.binding operation).invocation.Keeps RecordsReads := by
  intro context identifier request store holds
  have recorded : (resource.recording.binding operation).invocation =
      (resource.binding operation).invocation.recording fun _ =>
        (resource.binding operation).recorded :=
    congrArg Binding.invocation (Binding.ofOperation_recording ..)
  have added : ∀ earlier ∈ (resource.binding operation).recorded, earlier.isRead = true := by
    unfold Binding.recorded
    split
    · exact List.forall_mem_singleton.mpr read
    · exact fun earlier member => nomatch member
  rw [recorded, Invocation.act_recording]
  exact List.forall_mem_append.mpr ⟨holds, added⟩

end Sluice.Resource
