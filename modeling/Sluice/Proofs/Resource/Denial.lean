import Sluice.Proofs.Resource.Rulings
import Sluice.Proofs.Resource.Stages

/-!
# Denied requests

A request that is denied access is answered before anything of it is looked at but its caller and
the formats that it accepts. `Run.IsDenied.exchange_eq` gives the whole exchange of such a request,
and neither its identifier, its query, its body, the bound operation nor the stored data occur in it.
Two denied requests are therefore told apart by nothing that a client gets to see.
-/

namespace Sluice.Resource

variable {σ : Type}

/-- One run of dispatch: a binding with everything that it is run on. -/
structure Run (σ : Type) where
  binding : Binding σ
  identifier : Option String
  request : Request
  incident : Incident
  shared : Shared σ

namespace Run

/-- What comes of a run. -/
def exchange (run : Run σ) (engine : Engine σ) : Exchange σ :=
  dispatch engine run.binding run.identifier run.request run.incident run.shared

/-- The calls of the bound invocation in a run. -/
def calls (run : Run σ) (engine : Engine σ) : List Call :=
  (dispatch engine.recording run.binding.noted run.identifier run.request run.incident
    (run.shared.withRecord [])).shared.store.2

/-- A run whose request gets as far as the access check and is denied there. -/
structure IsDenied (run : Run σ) (engine : Engine σ) : Prop where
  accepts : run.request.negotiate = .ok ()
  available : engine.source.acquire run.shared.store = .ok ()
  denied : ∃ reason, run.binding.policy.authorize run.binding.operation
    (Caller.rolesOf run.request.caller) = .deny reason

/-- A run that neither calls an operation nor looks at what the request brings for one: no
invocation is called, the data stay as they are, and the whole exchange is the same for any other
identifier and any other request of the caller that accepts JSON, whatever body it carries. -/
structure IsBlind (run : Run σ) (engine : Engine σ) : Prop where
  calls : run.calls engine = []
  counted : (run.exchange engine).shared.calls = run.shared.calls
  store : (run.exchange engine).shared.store = run.shared.store
  unread : ∀ (identifier : Option String) (other : Request),
    other.caller = run.request.caller → other.negotiate = .ok () →
      dispatch engine run.binding identifier other run.incident run.shared = run.exchange engine

end Run

/-- The response to every request that is denied access. -/
def deniedResponse : Http.Response where
  status := 403
  headers := errorHeaders
  body := .plain "\x7b\"message\":\"Not Authorized\"\x7d"

/-- There is one reason for which access is denied. -/
theorem AccessPolicy.reason_of_deny {policy : AccessPolicy} {operation : Operation} {held : Roles}
    {reason : String} (denied : policy.authorize operation held = .deny reason) :
    reason = "missing role" := by
  unfold authorize at denied
  split at denied
  · cases denied
  · exact (Decision.deny.inj denied).symm

/-- The reason for which access is denied is not shown. -/
theorem toResponse_forbidden (incident : Incident) (reason : String) :
    (Ruling.of incident (.forbidden reason)).toResponse = deniedResponse := by
  have body : (Envelope.plain "Not Authorized").render =
      "\x7b\"message\":\"Not Authorized\"\x7d" := by
    decide +kernel
  have ruled : Ruling.of incident (.forbidden reason) =
      ⟨403, .plain "Not Authorized", "forbidden", none,
        .plain .debug "request failed"
          [("mapping", "forbidden"), ("status", toString 403),
            ("error", (Failure.forbidden reason).message)]⟩ := rfl
  rw [Ruling.toResponse_eq, ruled, body]
  rfl

namespace Run.IsDenied

variable {run : Run σ} {engine : Engine σ}

/-- The exchange of a denied request. -/
theorem exchange_eq (denied : run.IsDenied engine) :
    run.exchange engine =
      { Exchange.failed run.incident
          (run.binding.spanWith ⟨engine.office, run.request.caller⟩) (.forbidden "missing role")
          run.shared with
        shared := run.shared.lease.release } := by
  obtain ⟨reason, decided⟩ := denied.denied
  obtain rfl := AccessPolicy.reason_of_deny decided
  simp only [exchange, dispatch, denied.accepts, denied.available, Binding.serveLeased, decided]
  rfl

/-- The access check is the first stage at which something is wrong with a denied request. -/
theorem firstFault?_eq (denied : run.IsDenied engine) :
    Stage.firstFault? engine run.binding run.identifier run.request run.shared.store =
      some (.access, .forbidden "missing role") := by
  obtain ⟨reason, decided⟩ := denied.denied
  obtain rfl := AccessPolicy.reason_of_deny decided
  simp only [Stage.firstFault?, Stage.all, List.findSome?_cons, Stage.fault?, denied.accepts,
    denied.available, decided, Option.map_none, Option.map_some]

/-- A denied request stays denied whatever else it brings, as long as its client accepts JSON. -/
theorem replaced (denied : run.IsDenied engine) {other : Request}
    (sameCaller : other.caller = run.request.caller) (accepts : other.negotiate = .ok ())
    (identifier : Option String) :
    ({ run with identifier := identifier, request := other } : Run σ).IsDenied engine where
  accepts := accepts
  available := denied.available
  denied := by
    simp only [sameCaller]
    exact denied.denied

/-- A denied request is not looked at any further. -/
theorem isBlind (denied : run.IsDenied engine) : run.IsBlind engine where
  calls := by
    have noted := calls_dispatch_noted engine run.binding run.identifier run.request run.incident
      run.shared []
    rw [denied.firstFault?_eq] at noted
    exact noted
  counted := by
    rw [denied.exchange_eq]
    rfl
  store := by
    rw [denied.exchange_eq]
    rfl
  unread := by
    intro identifier other sameCaller accepts
    have same := (denied.replaced sameCaller accepts identifier).exchange_eq
    simp only [sameCaller] at same
    exact same.trans denied.exchange_eq.symm

end Run.IsDenied

/-- Any two requests that are denied access get the same response, whatever their identifiers,
queries and bodies, the names of their callers, the bound operations and the stored data are; and
nothing is called or looked at for either of them. -/
theorem denied_runs_alike (engine : Engine σ) (first second : Run σ)
    (deniedFirst : first.IsDenied engine) (deniedSecond : second.IsDenied engine) :
    (first.exchange engine).response = (second.exchange engine).response ∧
      (first.exchange engine).response = deniedResponse ∧
      first.IsBlind engine ∧ second.IsBlind engine := by
  have answered {run : Run σ} (denied : run.IsDenied engine) :
      (run.exchange engine).response = deniedResponse := by
    rw [denied.exchange_eq]
    exact toResponse_forbidden ..
  exact ⟨(answered deniedFirst).trans (answered deniedSecond).symm, answered deniedFirst,
    deniedFirst.isBlind, deniedSecond.isBlind⟩

/-- An update without an identifier and a body by nobody, and one with a malformed body by a caller
with a role that does not count, are denied alike, although only the second is implemented. -/
theorem denied_updates_alike :
    let engine : Engine (List String) := ⟨.checkedByLease fun _ => .ok (), .derived, "/spk-data"⟩
    let template : Template := ⟨"/a/\x7bx\x7d", "/a/", "\x7bx\x7d", "x"⟩
    let handler : Handler (List String) :=
      { update := some fun _ _ _ store => ⟨.ok .noContent, "changed" :: store, []⟩ }
    let bare : Run (List String) :=
      ⟨.ofOperation template {} (.writtenBy ["W"]) .update, none,
        ⟨.patch, ⟨"/a/b".toList, none⟩, [], [], none⟩, ⟨0⟩, .start []⟩
    let full : Run (List String) :=
      ⟨.ofOperation template handler (.writtenBy ["W"]) .update, some "b",
        ⟨.patch, ⟨"/a/b".toList, some "q=1".toList⟩, [⟨"accept", .ofText "*/*"⟩], [0x7b],
          some (.named "q0hec" ["viewer"])⟩, ⟨1⟩, .start ["held"]⟩
    bare.IsDenied engine ∧ full.IsDenied engine ∧
      (bare.exchange engine).response = (full.exchange engine).response ∧
      (bare.exchange engine).response = deniedResponse ∧
      bare.IsBlind engine ∧ full.IsBlind engine := by
  intro engine template handler bare full
  have deniedBare : bare.IsDenied engine := ⟨rfl, rfl, "missing role", by decide +kernel⟩
  have acceptsFull : full.request.negotiate = .ok () :=
    (Request.negotiate_eq_ok_iff full.request).mpr (by decide +kernel)
  have deniedFull : full.IsDenied engine :=
    ⟨acceptsFull, rfl, "missing role", by decide +kernel⟩
  exact ⟨deniedBare, deniedFull, denied_runs_alike engine bare full deniedBare deniedFull⟩

end Sluice.Resource
