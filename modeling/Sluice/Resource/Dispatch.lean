import Sluice.Resource.Binding
import Sluice.Resource.Office
import Sluice.Resource.Request
import Sluice.Resource.Taxonomy

/-!
# Dispatch

How one request is served through one binding. The stages come in a fixed order: the format of the
answer is agreed, a connection is leased, access is decided, the inputs are read and the operation is
called. The first stage that fails settles the answer, and later stages have no effect. A lease is
given back on every way out.
-/

namespace Sluice.Resource

/-- Connections handed out so far and given back so far. -/
structure Leases where
  acquired : Nat
  released : Nat
  deriving Repr, DecidableEq

/-- How many connections are out. -/
def Leases.outstanding (leases : Leases) : Nat :=
  leases.acquired - leases.released

/-- What all requests share: the data of the resources, the leases, and how many operations have been
called. -/
structure Shared (σ : Type) where
  store : σ
  leases : Leases
  calls : Nat

namespace Shared

variable {σ : Type}

/-- The start of a server. -/
def start (store : σ) : Shared σ := ⟨store, ⟨0, 0⟩, 0⟩

/-- A connection is handed out. -/
def lease (shared : Shared σ) : Shared σ :=
  { shared with leases := { shared.leases with acquired := shared.leases.acquired + 1 } }

/-- A connection is given back. -/
def release (shared : Shared σ) : Shared σ :=
  { shared with leases := { shared.leases with released := shared.leases.released + 1 } }

end Shared

/-- Where connections come from. -/
structure Source (σ : Type) where
  /-- Whether a connection can be handed out now. -/
  acquire : σ → Except Failure Unit
  /-- Whether the source works at all. -/
  check : Shared σ → Except Failure Unit × Shared σ

/-- A source that is checked by handing out a connection and taking it back. -/
def Source.checkedByLease {σ : Type} (acquire : σ → Except Failure Unit) : Source σ where
  acquire := acquire
  check := fun shared =>
    match acquire shared.store with
    | .ok _ => (.ok (), shared.lease.release)
    | .error failure => (.error failure, shared)

/-- What every dispatch of a server uses. -/
structure Engine (σ : Type) where
  source : Source σ
  offices : OfficeResolver
  /-- The path under which the resources are mounted. -/
  basePath : String

/-- The office of every request. -/
def Engine.office {σ : Type} (engine : Engine σ) : String :=
  engine.offices.resolve engine.basePath

/-- The answer to a request, what is shared afterwards, and what was reported. -/
structure Exchange (σ : Type) where
  response : Http.Response
  shared : Shared σ
  events : List Log.Event

variable {σ : Type}

/-- What is known of a dispatch from its start. -/
def Binding.span (binding : Binding σ) : Log.Fields :=
  [("operation", binding.operation.name), ("path", binding.path)]

/-- What is known of a dispatch once its context is. -/
def Binding.spanWith (binding : Binding σ) (context : Context) : Log.Fields :=
  binding.span ++ [("office", context.office)] ++
    (context.caller.map fun caller => ("caller", caller.name)).toList

/-- The identifier of an item, which must be there and not be empty. -/
def Binding.identifier (binding : Binding σ) (identifier : Option String) :
    Except Failure String :=
  match identifier with
  | some text =>
    if text.isEmpty then .error (.missingParameter binding.template.identifierName) else .ok text
  | none => .error (.missingParameter binding.template.identifierName)

/-- The operation with the inputs that it takes; of a missing identifier and a body that cannot be
read the former counts. -/
def Binding.action (binding : Binding σ) (context : Context) (identifier : Option String)
    (request : Request) : Except Failure (Action σ) :=
  match binding.invocation with
  | .item run => do
    let text ← binding.identifier identifier
    return run context text
  | .filters run => do
    let filters ← Filters.read request.uri
    return run context filters
  | .payload run => do
    let payload ← request.payload
    return run context payload
  | .itemPayload run => do
    let text ← binding.identifier identifier
    let payload ← request.payload
    return run context text payload

namespace Exchange

/-- A request that failed, reported within a span. -/
def failed (incident : Incident) (span : Log.Fields) (failure : Failure) (shared : Shared σ) :
    Exchange σ :=
  let ruling := Ruling.of incident failure
  ⟨ruling.toResponse, shared, [ruling.event.within span]⟩

/-- A request that an operation answered with a reply, reported within a span. -/
def served (span : Log.Fields) (reply : Reply) (shared : Shared σ) : Exchange σ :=
  let event := Log.Event.plain .debug "request served" [("status", toString reply.status)]
  ⟨reply.toResponse, shared, [event.within span]⟩

/-- The exchange with earlier events in front of its own. -/
def after (events : List Log.Event) (exchange : Exchange σ) : Exchange σ :=
  { exchange with events := events ++ exchange.events }

end Exchange

/-- Calls an operation. A stand-in for one that is not implemented is no call of the resource. -/
def Binding.call (binding : Binding σ) (incident : Incident) (span : Log.Fields)
    (action : Action σ) (shared : Shared σ) : Exchange σ :=
  let outcome := action shared.store
  let shared :=
    { shared with
      store := outcome.store
      calls := if binding.implemented then shared.calls + 1 else shared.calls }
  let events := outcome.events.map (·.within span)
  match outcome.result with
  | .ok reply => (Exchange.served span reply shared).after events
  | .error failure => (Exchange.failed incident span failure shared).after events

/-- Serves a request with a leased connection: decides access, reads the inputs and calls the
operation. -/
def Binding.serveLeased (binding : Binding σ) (context : Context) (identifier : Option String)
    (request : Request) (incident : Incident) (shared : Shared σ) : Exchange σ :=
  let span := binding.spanWith context
  match binding.policy.authorize binding.operation (Caller.rolesOf context.caller) with
  | .deny reason => .failed incident span (.forbidden reason) shared
  | .allow =>
    match binding.action context identifier request with
    | .error failure => .failed incident span failure shared
    | .ok action => binding.call incident span action shared

/-- Serves a request through a binding. The incident is used if the request fails in a way that only
the log explains. -/
def dispatch (engine : Engine σ) (binding : Binding σ) (identifier : Option String)
    (request : Request) (incident : Incident) (shared : Shared σ) : Exchange σ :=
  match request.negotiate with
  | .error failure => .failed incident binding.span failure shared
  | .ok _ =>
    match engine.source.acquire shared.store with
    | .error failure => .failed incident binding.span failure shared
    | .ok _ =>
      let context : Context := ⟨engine.office, request.caller⟩
      let exchange :=
        binding.serveLeased context identifier request incident shared.lease
      { exchange with shared := exchange.shared.release }

end Sluice.Resource
