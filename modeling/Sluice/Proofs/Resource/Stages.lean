import Sluice.Proofs.Resource.BoundResource
import Sluice.Resource.Dispatch

/-!
# Stages of dispatch

What a request meets on its way to an operation, described stage by stage. `Stage.fault?` says what
is wrong with a request at one stage without regard to the others, and `Stage.firstFault?` takes the
first of these faults in order. The main statement is that dispatch does nothing else: the first
fault settles the answer and nothing behind it has any effect, and a request without a fault is
handed to the bound operation once, with its inputs as they came.

That an operation is called once, and with what, is stated over `noted` bindings as well: these keep a
record of their calls beside the shared data, so the calls of a dispatch can be read off at its end. A
record stands on the side, whatever is recorded of a call: `dispatch_recording` says that a dispatch
comes to the same with it, and `recorded_dispatch` what is added to it.
-/

namespace Sluice.Resource

variable {σ : Type}

/-- What is looked at in a request before an operation is called. -/
inductive Stage where
  /-- The format in which the client wants its answer. -/
  | format
  /-- A connection for the request. -/
  | connection
  /-- The roles of the caller. -/
  | access
  /-- The identifier of an item. -/
  | identifier
  /-- The size of the body. -/
  | body
  deriving Repr, DecidableEq

/-- The body of a request with the content type that is declared for it. -/
def Request.carried (request : Request) : Payload :=
  ⟨(request.headers.first? "content-type").bind (·.text?), request.body⟩

namespace Binding

/-- What is wrong with the identifier of a request, if the operation needs one. -/
def identifierFault? (binding : Binding σ) (identifier : Option String) : Option Failure :=
  if binding.invocation.takesIdentifier ∧ identifier.getD "" = "" then
    some (.missingParameter binding.template.identifierName)
  else none

/-- What is wrong with the body of a request, if the operation reads it. -/
def bodyFault? (binding : Binding σ) (request : Request) : Option Failure :=
  if binding.invocation.takesPayload ∧ Request.maxPayloadBytes < request.body.length then
    some (Payload.refused "failed to read request body: length limit exceeded")
  else none

end Binding

namespace Stage

/-- The stages in order. -/
def all : List Stage := [.format, .connection, .access, .identifier, .body]

/-- Whether a connection is out while the stage is looked at. -/
def isLeased : Stage → Bool
  | .format | .connection => false
  | .access | .identifier | .body => true

/-- What is wrong with a request at one stage, whatever the other stages find. -/
def fault? (engine : Engine σ) (binding : Binding σ) (identifier : Option String)
    (request : Request) (store : σ) : Stage → Option Failure
  | .format =>
    match request.negotiate with
    | .ok _ => none
    | .error failure => some failure
  | .connection =>
    match engine.source.acquire store with
    | .ok _ => none
    | .error failure => some failure
  | .access =>
    match binding.policy.authorize binding.operation (Caller.rolesOf request.caller) with
    | .allow => none
    | .deny reason => some (.forbidden reason)
  | .identifier => binding.identifierFault? identifier
  | .body => binding.bodyFault? request

/-- The first stage at which something is wrong, and what. -/
def firstFault? (engine : Engine σ) (binding : Binding σ) (identifier : Option String)
    (request : Request) (store : σ) : Option (Stage × Failure) :=
  all.findSome? fun stage =>
    (stage.fault? engine binding identifier request store).map fun failure => (stage, failure)

/-- The first fault is the fault of its stage. -/
theorem fault?_of_firstFault? {engine : Engine σ} {binding : Binding σ} {identifier : Option String}
    {request : Request} {store : σ} {stage : Stage} {failure : Failure}
    (found : firstFault? engine binding identifier request store = some (stage, failure)) :
    stage.fault? engine binding identifier request store = some failure := by
  obtain ⟨place, _, faulty⟩ := List.exists_of_findSome?_eq_some found
  obtain ⟨_, isFault, same⟩ := Option.map_eq_some_iff.mp faulty
  cases same
  exact isFault

end Stage

/-! ## Calls -/

/-- The inputs of one call of an operation. -/
inductive Inputs where
  | item (identifier : String)
  | filters (filters : Filters)
  | payload (payload : Payload)
  | itemPayload (identifier : String) (payload : Payload)
  deriving Repr, DecidableEq

/-- One call of an operation: for whom, and with which inputs. -/
structure Call where
  context : Context
  inputs : Inputs
  deriving Repr, DecidableEq

namespace Invocation

/-- The inputs that an invocation takes, as they come with the request. -/
def inputs (identifier : String) (request : Request) : Invocation σ → Inputs
  | .item _ => .item identifier
  | .filters _ => .filters (.ofUri request.uri)
  | .payload _ => .payload request.carried
  | .itemPayload _ => .itemPayload identifier request.carried

/-- What an invocation does when it is called with its inputs. -/
def act (context : Context) (identifier : String) (request : Request) : Invocation σ → Action σ
  | .item run => run context identifier
  | .filters run => run context (.ofUri request.uri)
  | .payload run => run context request.carried
  | .itemPayload run => run context identifier request.carried

end Invocation

/-! ## Records -/

section Records

variable {ρ : Type}

/-- An action that adds to a record beside the data. -/
def Action.recording (added : List ρ) (action : Action σ) : Action (σ × List ρ) :=
  fun (store, record) =>
    let outcome := action store
    ⟨outcome.result, (outcome.store, record ++ added), outcome.events⟩

/-- An invocation that adds something to a record for each call. -/
def Invocation.recording (added : Call → List ρ) : Invocation σ → Invocation (σ × List ρ)
  | .item run =>
    .item fun context identifier =>
      .recording (added ⟨context, .item identifier⟩) (run context identifier)
  | .filters run =>
    .filters fun context filters =>
      .recording (added ⟨context, .filters filters⟩) (run context filters)
  | .payload run =>
    .payload fun context payload =>
      .recording (added ⟨context, .payload payload⟩) (run context payload)
  | .itemPayload run =>
    .itemPayload fun context identifier payload =>
      .recording (added ⟨context, .itemPayload identifier payload⟩)
        (run context identifier payload)

/-- A binding that adds something to a record for each call. -/
def Binding.recordingBy (added : Call → List ρ) (binding : Binding σ) : Binding (σ × List ρ) where
  method := binding.method
  path := binding.path
  operation := binding.operation
  invocation := binding.invocation.recording added
  implemented := binding.implemented
  template := binding.template
  policy := binding.policy

/-- A binding that notes its calls. -/
def Binding.noted (binding : Binding σ) : Binding (σ × List Call) :=
  binding.recordingBy fun call => [call]

/-- What is shared, with a record beside the data. -/
def Shared.withRecord (shared : Shared σ) (record : List ρ) : Shared (σ × List ρ) :=
  ⟨(shared.store, record), shared.leases, shared.calls⟩

/-- What is shared beside a record. -/
def Shared.unrecorded (shared : Shared (σ × List ρ)) : Shared σ :=
  ⟨shared.store.1, shared.leases, shared.calls⟩

/-- A source that pays no attention to a record beside its data. -/
def Source.recording (source : Source σ) : Source (σ × List ρ) where
  acquire := fun store => source.acquire store.1
  check := fun shared =>
    let (outcome, after) := source.check shared.unrecorded
    (outcome, after.withRecord shared.store.2)

/-- An engine whose source pays no attention to a record. -/
def Engine.recording (engine : Engine σ) : Engine (σ × List ρ) :=
  ⟨engine.source.recording, engine.offices, engine.basePath⟩

/-- What an exchange comes to beside a record. -/
def Exchange.unrecorded (exchange : Exchange (σ × List ρ)) : Exchange σ :=
  ⟨exchange.response, exchange.shared.unrecorded, exchange.events⟩

end Records

/-! ## What dispatch does -/

/-- An exchange that a failure at some stage settled: the answer rules on the failure, no operation
was called, and a connection was leased and given back only if the failure came after that. -/
structure Exchange.RefusedAt (stage : Stage) (failure : Failure) (incident : Incident)
    (before : Shared σ) (exchange : Exchange σ) : Prop where
  response : exchange.response = (Ruling.of incident failure).toResponse
  store : exchange.shared.store = before.store
  calls : exchange.shared.calls = before.calls
  leases : exchange.shared.leases =
    if stage.isLeased then before.lease.release.leases else before.leases
  events : ∃ span, exchange.events = [(Ruling.of incident failure).event.within span]

/-- An exchange in which an action was taken once: the answer is its reply or rules on its failure,
and a connection was leased and given back. -/
structure Exchange.ServedBy (action : Action σ) (implemented : Bool) (incident : Incident)
    (before : Shared σ) (exchange : Exchange σ) : Prop where
  response : exchange.response =
    match (action before.store).result with
    | .ok reply => reply.toResponse
    | .error failure => (Ruling.of incident failure).toResponse
  store : exchange.shared.store = (action before.store).store
  calls : exchange.shared.calls = before.calls + implemented.toNat
  leases : exchange.shared.leases = before.lease.release.leases
  events : ∃ span last, exchange.events = (action before.store).events.map (·.within span) ++ [last]

/-- The identifier of an item is taken as it comes, unless it is missing or empty. -/
theorem Binding.identifier_eq (binding : Binding σ) (identifier : Option String) :
    binding.identifier identifier =
      if identifier.getD "" = "" then .error (.missingParameter binding.template.identifierName)
      else .ok (identifier.getD "") := by
  cases identifier with
  | none => rfl
  | some text =>
    simp only [Binding.identifier, Option.getD_some, String.isEmpty_iff]

/-- The body of a request is taken as it comes, unless it is too long. -/
theorem Request.payload_eq (request : Request) :
    request.payload =
      if Request.maxPayloadBytes < request.body.length then
        .error (Payload.refused "failed to read request body: length limit exceeded")
      else .ok request.carried := rfl

/-- An operation is ready to be called when neither the identifier nor the body is at fault; of two
faults that of the identifier counts. -/
theorem Binding.action_eq (binding : Binding σ) (context : Context) (identifier : Option String)
    (request : Request) :
    binding.action context identifier request =
      match (binding.identifierFault? identifier).or (binding.bodyFault? request) with
      | some failure => .error failure
      | none => .ok (binding.invocation.act context (identifier.getD "") request) := by
  unfold Binding.action Binding.identifierFault? Binding.bodyFault?
  cases invocation : binding.invocation with
  | filters run =>
    simp only [Filters.read_eq]
    rfl
  | item run =>
    simp only [Binding.identifier_eq, Invocation.takesIdentifier, Invocation.takesPayload,
      Bool.false_eq_true, false_and, if_false, true_and, Option.or_none]
    split <;> rfl
  | payload run =>
    simp only [Request.payload_eq, Invocation.takesIdentifier, Invocation.takesPayload,
      Bool.false_eq_true, false_and, if_false, true_and, Option.none_or]
    split <;> rfl
  | itemPayload run =>
    simp only [Binding.identifier_eq, Request.payload_eq, Invocation.takesIdentifier,
      Invocation.takesPayload, true_and]
    split
    · rfl
    · split <;> rfl

/-- Calling an operation takes its action once. -/
theorem Binding.call_servedBy (binding : Binding σ) (incident : Incident) (span : Log.Fields)
    (action : Action σ) (before : Shared σ) :
    let exchange := binding.call incident span action before.lease
    Exchange.ServedBy action binding.implemented incident before
      { exchange with shared := exchange.shared.release } := by
  have counted : (if binding.implemented then before.calls + 1 else before.calls) =
      before.calls + binding.implemented.toNat := by
    cases binding.implemented <;> rfl
  cases result : (action before.store).result with
  | ok reply =>
    constructor
    all_goals simp only [Binding.call, Shared.lease, Shared.release, result]
    · rfl
    · rfl
    · exact counted
    · rfl
    · exact ⟨span, _, rfl⟩
  | error failure =>
    constructor
    all_goals simp only [Binding.call, Shared.lease, Shared.release, result]
    · rfl
    · rfl
    · exact counted
    · rfl
    · exact ⟨span, _, rfl⟩

/-- A failure leaves everything that is shared alone, but for a connection that is given back if it
came behind the lease. -/
theorem Exchange.failed_refusedAt (stage : Stage) (incident : Incident) (span : Log.Fields)
    (failure : Failure) (before : Shared σ) :
    (Exchange.failed incident span failure
      (if stage.isLeased then before.lease.release else before)).RefusedAt stage failure incident
        before := by
  cases stage <;> exact ⟨rfl, rfl, rfl, rfl, span, rfl⟩

/-- Dispatch does nothing but rule on the first fault or call the operation once. A fault behind the
lease is reported with the context in the span, as a call is, and the connection is given back. -/
theorem dispatch_eq (engine : Engine σ) (binding : Binding σ) (identifier : Option String)
    (request : Request) (incident : Incident) (shared : Shared σ) :
    dispatch engine binding identifier request incident shared =
      match Stage.firstFault? engine binding identifier request shared.store with
      | some (stage, failure) =>
        .failed incident
          (if stage.isLeased then binding.spanWith ⟨engine.office, request.caller⟩
            else binding.span)
          failure (if stage.isLeased then shared.lease.release else shared)
      | none =>
        let exchange := binding.call incident (binding.spanWith ⟨engine.office, request.caller⟩)
          (binding.invocation.act ⟨engine.office, request.caller⟩ (identifier.getD "") request)
          shared.lease
        { exchange with shared := exchange.shared.release } := by
  simp only [Stage.firstFault?, Stage.all, List.findSome?_cons, List.findSome?_nil, Stage.fault?,
    dispatch]
  cases request.negotiate with
  | error failure => rfl
  | ok _ =>
    cases engine.source.acquire shared.store with
    | error failure => rfl
    | ok _ =>
      simp only [Binding.serveLeased, Binding.action_eq]
      cases binding.policy.authorize binding.operation (Caller.rolesOf request.caller) with
      | deny reason => rfl
      | allow =>
        cases binding.identifierFault? identifier with
        | some failure => rfl
        | none => cases binding.bodyFault? request <;> rfl

/-- Dispatch is settled by the first fault, and without a fault by the operation. -/
theorem dispatch_settled (engine : Engine σ) (binding : Binding σ) (identifier : Option String)
    (request : Request) (incident : Incident) (shared : Shared σ) :
    match Stage.firstFault? engine binding identifier request shared.store with
    | some (stage, failure) =>
      (dispatch engine binding identifier request incident shared).RefusedAt stage failure incident
        shared
    | none =>
      (dispatch engine binding identifier request incident shared).ServedBy
        (binding.invocation.act ⟨engine.office, request.caller⟩ (identifier.getD "") request)
        binding.implemented incident shared := by
  rw [dispatch_eq]
  cases Stage.firstFault? engine binding identifier request shared.store with
  | some fault => exact Exchange.failed_refusedAt ..
  | none => exact Binding.call_servedBy ..

/-! ## The record of a dispatch -/

/-- The faults of a request do not depend on anything that the operation does. -/
theorem Stage.firstFault?_congr {τ : Type} {engine : Engine σ} {other : Engine τ}
    {binding : Binding σ} {second : Binding τ} {store : σ} {held : τ}
    (acquire : engine.source.acquire store = other.source.acquire held)
    (policy : binding.policy = second.policy) (operation : binding.operation = second.operation)
    (template : binding.template = second.template)
    (takesIdentifier : binding.invocation.takesIdentifier = second.invocation.takesIdentifier)
    (takesPayload : binding.invocation.takesPayload = second.invocation.takesPayload)
    (identifier : Option String) (request : Request) :
    firstFault? engine binding identifier request store =
      firstFault? other second identifier request held := by
  have alike (stage : Stage) : stage.fault? engine binding identifier request store =
      stage.fault? other second identifier request held := by
    cases stage with
    | format => rfl
    | connection => simp only [fault?, acquire]
    | access => simp only [fault?, policy, operation]
    | identifier => simp only [fault?, Binding.identifierFault?, takesIdentifier, template]
    | body => simp only [fault?, Binding.bodyFault?, takesPayload]
  simp only [firstFault?, alike]

section Records

variable {ρ : Type}

/-- An invocation takes the same inputs where it is recorded. -/
theorem Invocation.takes_recording (added : Call → List ρ) (invocation : Invocation σ) :
    (invocation.recording added).takesIdentifier = invocation.takesIdentifier ∧
      (invocation.recording added).takesPayload = invocation.takesPayload := by
  cases invocation <;> exact ⟨rfl, rfl⟩

/-- An invocation acts as it does where it is not recorded, and the call is. -/
theorem Invocation.act_recording (added : Call → List ρ) (invocation : Invocation σ)
    (context : Context) (identifier : String) (request : Request) :
    (invocation.recording added).act context identifier request =
      (invocation.act context identifier request).recording
        (added ⟨context, invocation.inputs identifier request⟩) := by
  cases invocation <;> rfl

/-- The same faults are found where calls are recorded. -/
theorem Stage.firstFault?_recording (added : Call → List ρ) (engine : Engine σ)
    (binding : Binding σ) (identifier : Option String) (request : Request) (store : σ × List ρ) :
    firstFault? engine.recording (binding.recordingBy added) identifier request store =
      firstFault? engine binding identifier request store.1 := by
  obtain ⟨takesIdentifier, takesPayload⟩ := binding.invocation.takes_recording added
  refine firstFault?_congr ?_ ?_ ?_ ?_ takesIdentifier takesPayload identifier request
  all_goals rfl

/-- A call that is recorded comes to what the call comes to. -/
theorem Binding.call_recording (binding : Binding σ) (incident : Incident) (span : Log.Fields)
    (added : Call → List ρ) (noted : List ρ) (action : Action σ) (shared : Shared (σ × List ρ)) :
    ((binding.recordingBy added).call incident span (action.recording noted) shared).unrecorded =
      binding.call incident span action shared.unrecorded := by
  simp only [Binding.call, Action.recording, Shared.unrecorded]
  cases (action shared.store.1).result <;> rfl

/-- A dispatch comes to the same where calls are recorded. -/
theorem dispatch_recording (added : Call → List ρ) (engine : Engine σ) (binding : Binding σ)
    (identifier : Option String) (request : Request) (incident : Incident)
    (shared : Shared (σ × List ρ)) :
    (dispatch engine.recording (binding.recordingBy added) identifier request incident
        shared).unrecorded =
      dispatch engine binding identifier request incident shared.unrecorded := by
  have beside : shared.unrecorded.store = shared.store.1 := rfl
  rw [dispatch_eq, dispatch_eq, Stage.firstFault?_recording, beside]
  cases Stage.firstFault? engine binding identifier request shared.store.1 with
  | some fault =>
    obtain ⟨stage, failure⟩ := fault
    cases stage <;> rfl
  | none =>
    have called := binding.call_recording incident
      (binding.spanWith ⟨engine.office, request.caller⟩) added
      (added ⟨⟨engine.office, request.caller⟩,
        binding.invocation.inputs (identifier.getD "") request⟩)
      (binding.invocation.act ⟨engine.office, request.caller⟩ (identifier.getD "") request)
      shared.lease
    simp only [Binding.recordingBy, Invocation.act_recording]
    exact congrArg (fun exchange : Exchange σ => { exchange with shared := exchange.shared.release })
      called

/-- A dispatch adds to the record for one call, with the context and the inputs of the request, if there
is no fault, and nothing otherwise. -/
theorem recorded_dispatch (added : Call → List ρ) (engine : Engine σ) (binding : Binding σ)
    (identifier : Option String) (request : Request) (incident : Incident) (shared : Shared σ)
    (record : List ρ) :
    (dispatch engine.recording (binding.recordingBy added) identifier request incident
        (shared.withRecord record)).shared.store.2 =
      record ++
        match Stage.firstFault? engine binding identifier request shared.store with
        | some _ => []
        | none =>
          added ⟨⟨engine.office, request.caller⟩,
            binding.invocation.inputs (identifier.getD "") request⟩ := by
  have settled := dispatch_settled engine.recording (binding.recordingBy added) identifier request
    incident (shared.withRecord record)
  simp only [Shared.withRecord, Stage.firstFault?_recording] at settled
  cases found : Stage.firstFault? engine binding identifier request shared.store with
  | some fault =>
    rw [found] at settled
    simp only [Shared.withRecord, settled.store, List.append_nil]
  | none =>
    rw [found] at settled
    simp only [Shared.withRecord, settled.store]
    simp only [Binding.recordingBy, Invocation.act_recording, Action.recording]
    rfl

end Records

/-- A dispatch notes one call if there is no fault, and none otherwise. -/
theorem calls_dispatch_noted (engine : Engine σ) (binding : Binding σ)
    (identifier : Option String) (request : Request) (incident : Incident) (shared : Shared σ)
    (calls : List Call) :
    (dispatch engine.recording binding.noted identifier request incident
        (shared.withRecord calls)).shared.store.2 =
      calls ++
        match Stage.firstFault? engine binding identifier request shared.store with
        | some _ => []
        | none =>
          [⟨⟨engine.office, request.caller⟩,
            binding.invocation.inputs (identifier.getD "") request⟩] :=
  recorded_dispatch ..

/-- A request through a binding meets the stages in order. The first fault settles its answer, no
operation is called and nothing is leased unless the fault came behind the lease; without a fault
the operation is called once, with the office of the engine, the caller and the inputs as they came,
and its outcome settles the answer. The bindings of resources need an identifier or a body just as
their operations do. -/
theorem dispatch_meets_stages (engine : Engine σ) (binding : Binding σ)
    (identifier : Option String) (request : Request) (incident : Incident) (shared : Shared σ)
    (calls : List Call) :
    (match Stage.firstFault? engine binding identifier request shared.store with
      | some (stage, failure) =>
        (dispatch engine binding identifier request incident shared).RefusedAt stage failure
          incident shared
      | none =>
        (dispatch engine binding identifier request incident shared).ServedBy
          (binding.invocation.act ⟨engine.office, request.caller⟩ (identifier.getD "") request)
          binding.implemented incident shared) ∧
    (dispatch engine.recording binding.noted identifier request incident
        (shared.withRecord calls)).shared.store.2 =
      calls ++
        (match Stage.firstFault? engine binding identifier request shared.store with
        | some _ => []
        | none =>
          [⟨⟨engine.office, request.caller⟩,
            binding.invocation.inputs (identifier.getD "") request⟩]) ∧
    ∀ text handler policy bindings,
      Binding.ofResource text handler policy = .ok bindings → ∀ bound : Binding σ,
        bound ∈ bindings →
          bound.invocation.takesIdentifier = bound.operation.targetsItem ∧
            bound.invocation.takesPayload = bound.operation.takesPayload := by
  refine ⟨dispatch_settled .., calls_dispatch_noted .., ?_⟩
  intro text handler policy bindings made bound member
  obtain ⟨resource, _, _, _, rfl⟩ := BoundResource.ofResource_eq_ok_iff.mp made
  obtain ⟨operation, rfl⟩ := BoundResource.mem_bindings.mp member
  exact resource.takes_binding operation

end Sluice.Resource
