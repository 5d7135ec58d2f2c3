import Sluice.Proofs.Resource.Caching
import Sluice.Proofs.Resource.Denial

/-!
# Reports of a dispatch

What came of a dispatch is reported in one event, its verdict, behind whatever the operation itself
reports. The verdict is on `Run.result`: the reply of the operation, or the failure that settled the
run. All events of a dispatch lie in one span, which names the bound operation and its path from the
start, and the office and the caller as soon as there is a context. By then the format of the answer
has been agreed and a connection is out, so a failure behind the lease is reported with both and one in
front of it with neither.
-/

namespace Sluice.Resource

variable {σ : Type}

/-! ## Verdicts -/

/-- Whether an event says what came of a dispatch. -/
def isVerdict (event : Log.Event) : Bool :=
  ["request served", "request failed", "unhandled failure"].contains event.message

/-- What is reported of a dispatch with a result. -/
def verdictOn (incident : Incident) : Except Failure Reply → Log.Event
  | .ok reply => .plain .debug "request served" [("status", toString reply.status)]
  | .error failure => (Ruling.of incident failure).event

/-- A verdict that fits the response of a dispatch: it says with which status the client was answered,
or it names the incident that is all the client is told. -/
structure Verdict (event : Log.Event) (response : Http.Response) (incident : Incident) : Prop where
  isVerdict : isVerdict event = true
  status : event.message = "request served" ∨ event.message = "request failed" →
    event.fields.lookup "status" = some (toString response.status)
  unhandled : event.message = "unhandled failure" →
    response.status = 500 ∧ event.fields.lookup "incident" = some incident.text ∧
      ∃ text members, response.body = .plain text ∧
        Json.textMembers? (Text.Utf8.encode text) = .ok members ∧
        members.lookup "incidentIdentifier" = some (some incident.text)

/-- A failure is reported with its status if a row claims it, and otherwise with its incident. -/
theorem Ruling.event_cases (incident : Incident) (failure : Failure) :
    let ruling := of incident failure
    (ruling.event.message = "request failed" ∧
        ruling.event.fields.lookup "status" = some (toString ruling.status)) ∨
      (ruling.event.message = "unhandled failure" ∧ ruling.status = 500 ∧
        ruling.event.fields.lookup "incident" = some incident.text ∧
        ruling.envelope.incident = some incident) := by
  intro ruling
  cases found : Taxonomy.find? failure with
  | none =>
    rw [show ruling = _ from of_unclaimed found incident]
    exact .inr ⟨rfl, rfl, rfl, rfl⟩
  | some mapping =>
    rw [show ruling = _ from of_claimed found incident]
    exact .inl ⟨rfl, rfl⟩

/-- A dispatch is reported as served exactly if it has a reply. -/
theorem message_verdictOn (incident : Incident) (result : Except Failure Reply) :
    (verdictOn incident result).message = "request served" ↔ ∃ reply, result = .ok reply := by
  cases result with
  | ok reply => exact ⟨fun _ => ⟨reply, rfl⟩, fun _ => rfl⟩
  | error failure =>
    rcases Ruling.event_cases incident failure with ⟨message, _⟩ | ⟨message, _⟩ <;>
      simp [verdictOn, message]

/-- Whatever the result of a dispatch is, the verdict on it fits the response to it. -/
theorem verdict_verdictOn (incident : Incident) (result : Except Failure Reply) :
    Verdict (verdictOn incident result) (responseTo incident result) incident := by
  cases result with
  | ok reply =>
    constructor
    case isVerdict => rfl
    case status =>
      intro _
      rw [responseTo, Reply.status_toResponse]
      rfl
    case unhandled =>
      intro unhandled
      exact absurd unhandled (by decide : "request served" ≠ "unhandled failure")
  | error failure =>
    simp only [verdictOn, responseTo]
    rcases Ruling.event_cases incident failure with ⟨message, status⟩ |
      ⟨message, status, named, shown⟩
    · constructor
      case isVerdict => simp [isVerdict, message]
      case status => exact fun _ => status
      case unhandled => simp [message]
    · constructor
      case isVerdict => simp [isVerdict, message]
      case status => simp [message]
      case unhandled =>
        intro _
        refine ⟨status, named, _, _, rfl, Envelope.textMembers?_render _, ?_⟩
        rw [Envelope.lookup_incident, shown]
        rfl

/-! ## Runs -/

namespace Run

/-- A run that gets a context: its format has been agreed, and a connection is handed out. -/
structure IsSeeded (run : Run σ) (engine : Engine σ) : Prop where
  accepts : run.request.negotiate = .ok ()
  available : engine.source.acquire run.shared.store = .ok ()

/-- The first fault of a run. -/
def fault? (run : Run σ) (engine : Engine σ) : Option (Stage × Failure) :=
  Stage.firstFault? engine run.binding run.identifier run.request run.shared.store

/-- The call that a run without a fault makes of its operation, with all that it hands over. -/
def call (run : Run σ) (engine : Engine σ) : Call :=
  ⟨⟨engine.office, run.request.caller⟩,
    run.binding.invocation.inputs (run.identifier.getD "") run.request⟩

/-- What comes of the operation of a run, if it is called. -/
def outcome? (run : Run σ) (engine : Engine σ) : Option (Outcome σ) :=
  match run.fault? engine with
  | some _ => none
  | none => some (run.binding.invocation.act ⟨engine.office, run.request.caller⟩
      (run.identifier.getD "") run.request run.shared.store)

/-- What a run comes to: the reply of its operation, or the failure that settled it. -/
def result (run : Run σ) (engine : Engine σ) : Except Failure Reply :=
  match run.fault? engine with
  | some (_, failure) => .error failure
  | none => (run.binding.invocation.act ⟨engine.office, run.request.caller⟩
      (run.identifier.getD "") run.request run.shared.store).result

/-- What the operation of a run reports itself. -/
def ownEvents (run : Run σ) (engine : Engine σ) : List Log.Event :=
  ((run.outcome? engine).map (·.events)).getD []

/-- The span of a run: it names the context unless the first fault lies in front of the lease. -/
def span (run : Run σ) (engine : Engine σ) : Log.Fields :=
  if (run.fault? engine).all (·.1.isLeased) then
    run.binding.spanWith ⟨engine.office, run.request.caller⟩
  else run.binding.span

/-- What is reported of a run in a span, with a verdict at the end. -/
structure Reported (run : Run σ) (engine : Engine σ) (span : Log.Fields) (verdict : Log.Event) :
    Prop where
  /-- Everything lies in the span, the verdict behind what the operation reports itself. -/
  events : (run.exchange engine).events =
    (run.ownEvents engine ++ [verdict]).map (·.within span)
  /-- There is one verdict, apart from what the operation may report in these words. -/
  once : (run.exchange engine).events.countP isVerdict =
    (run.ownEvents engine).countP isVerdict + 1
  fits : Verdict verdict (run.exchange engine).response run.incident
  operation : span.lookup "operation" = some run.binding.operation.name
  path : span.lookup "path" = some run.binding.path
  /-- The office is named exactly if there is a context. -/
  office : ∀ office, span.lookup "office" = some office ↔
    run.IsSeeded engine ∧ engine.office = office
  /-- A caller is named exactly if there is a context with that caller. -/
  caller : ∀ name, span.lookup "caller" = some name ↔
    run.IsSeeded engine ∧ ∃ caller, run.request.caller = some caller ∧ caller.name = name
  /-- The outcome of the operation is that of its only call. -/
  called : run.calls engine = (run.outcome? engine).toList.map fun _ => run.call engine
  /-- The verdict is that of a request that was served exactly if the operation replied. -/
  served : verdict.message = "request served" ↔
    ∃ outcome reply, run.outcome? engine = some outcome ∧ outcome.result = .ok reply
  /-- Then the client gets the reply, whatever its status. -/
  replied : ∀ outcome reply, run.outcome? engine = some outcome → outcome.result = .ok reply →
    (run.exchange engine).response = reply.toResponse
  /-- An operation of a resource that replies is one that the resource implements. -/
  implemented : ∀ resource : BoundResource σ, run.binding ∈ resource.bindings →
    verdict.message = "request served" →
      resource.handler.implements run.binding.operation = true

variable {run : Run σ} {engine : Engine σ}

/-- A run has a context exactly if no fault lies in front of the lease. -/
theorem isSeeded_iff :
    run.IsSeeded engine ↔ (run.fault? engine).all (·.1.isLeased) = true := by
  rw [Option.all_eq_true]
  constructor
  · rintro ⟨accepts, available⟩ ⟨stage, failure⟩ found
    have faulty := Stage.fault?_of_firstFault? found
    cases stage with
    | format => simp [Stage.fault?, accepts] at faulty
    | connection => simp [Stage.fault?, available] at faulty
    | access | identifier | body => rfl
  · intro leased
    have accepts : run.request.negotiate = .ok () := by
      cases format : run.request.negotiate with
      | ok _ => rfl
      | error failure =>
        have found : run.fault? engine = some (.format, failure) := by
          simp only [fault?, Stage.firstFault?, Stage.all, List.findSome?_cons, Stage.fault?, format,
            Option.map_some]
        cases leased _ found
    refine ⟨accepts, ?available⟩
    cases connection : engine.source.acquire run.shared.store with
    | ok _ => rfl
    | error failure =>
      have found : run.fault? engine = some (.connection, failure) := by
        simp only [fault?, Stage.firstFault?, Stage.all, List.findSome?_cons, Stage.fault?, accepts,
          connection, Option.map_none, Option.map_some]
      cases leased _ found

/-- A call is answered and reported by what the action comes to. -/
theorem call_reports (binding : Binding σ) (incident : Incident) (span : Log.Fields)
    (action : Action σ) (shared : Shared σ) :
    (binding.call incident span action shared).response =
        responseTo incident (action shared.store).result ∧
      (binding.call incident span action shared).events =
        ((action shared.store).events ++ [verdictOn incident (action shared.store).result]).map
          (·.within span) := by
  simp only [Binding.call, List.map_append, List.map_singleton]
  cases (action shared.store).result <;> exact ⟨rfl, rfl⟩

/-- A run is answered and reported by its result. -/
theorem exchange_reports (run : Run σ) (engine : Engine σ) :
    (run.exchange engine).response = responseTo run.incident (run.result engine) ∧
      (run.exchange engine).events =
        (run.ownEvents engine ++ [verdictOn run.incident (run.result engine)]).map
          (·.within (run.span engine)) := by
  cases found : run.fault? engine with
  | some fault =>
    obtain ⟨stage, failure⟩ := fault
    simp only [ownEvents, outcome?, result, span, found]
    rw [exchange, dispatch_eq, show Stage.firstFault? .. = _ from found]
    cases stage <;> exact ⟨rfl, rfl⟩
  | none =>
    simp only [ownEvents, outcome?, result, span, found]
    rw [exchange, dispatch_eq, show Stage.firstFault? .. = _ from found]
    exact call_reports ..

/-- The span of a run names its operation and the path. -/
theorem lookup_span (run : Run σ) (engine : Engine σ) :
    (run.span engine).lookup "operation" = some run.binding.operation.name ∧
      (run.span engine).lookup "path" = some run.binding.path := by
  unfold span
  split <;> exact ⟨rfl, rfl⟩

/-- The span of a run names the office exactly if there is a context. -/
theorem lookup_span_office (office : String) :
    (run.span engine).lookup "office" = some office ↔
      run.IsSeeded engine ∧ engine.office = office := by
  rw [isSeeded_iff, span]
  split
  · next seeded =>
    have named : (run.binding.spanWith ⟨engine.office, run.request.caller⟩).lookup "office" =
        some engine.office := rfl
    simp [named, seeded]
  · next unseeded =>
    have unnamed : run.binding.span.lookup "office" = none := rfl
    simp [unnamed, unseeded]

/-- The span of a run names the caller exactly if there is a context with a caller. -/
theorem lookup_span_caller (name : String) :
    (run.span engine).lookup "caller" = some name ↔
      run.IsSeeded engine ∧ ∃ caller, run.request.caller = some caller ∧ caller.name = name := by
  rw [isSeeded_iff, span]
  split
  · next seeded =>
    have named : (run.binding.spanWith ⟨engine.office, run.request.caller⟩).lookup "caller" =
        run.request.caller.map (·.name) := by
      cases run.request.caller <;> rfl
    simp [named, seeded, Option.map_eq_some_iff]
  · next unseeded =>
    have unnamed : run.binding.span.lookup "caller" = none := rfl
    simp [unnamed, unseeded]

/-- A run calls its operation exactly if something comes of it. -/
theorem calls_eq (run : Run σ) (engine : Engine σ) :
    run.calls engine = (run.outcome? engine).toList.map fun _ => run.call engine := by
  rw [calls, calls_dispatch_noted, List.nil_append, outcome?, fault?]
  cases Stage.firstFault? engine run.binding run.identifier run.request run.shared.store <;> rfl

/-- A run comes to a reply exactly if its operation is called and replies. -/
theorem result_eq_ok_iff (reply : Reply) :
    run.result engine = .ok reply ↔
      ∃ outcome, run.outcome? engine = some outcome ∧ outcome.result = .ok reply := by
  unfold result outcome?
  cases run.fault? engine <;> simp

end Run

/-- An operation that a resource does not implement never replies. -/
theorem BoundResource.implements_of_result {resource : BoundResource σ} {operation : Operation}
    {context : Context} {identifier : String} {request : Request} {store : σ} {reply : Reply}
    (replied : ((resource.binding operation).invocation.act context identifier request store).result =
      .ok reply) :
    resource.handler.implements operation = true := by
  cases found : resource.handler.invocation? operation with
  | some invocation => rw [Handler.implements, found]; rfl
  | none =>
    simp only [binding, Binding.ofOperation, found, Option.getD_none] at replied
    cases operation <;> cases replied

/-- Every dispatch is reported with one verdict in its span, whatever becomes of the request. -/
theorem dispatch_reported (engine : Engine σ) (run : Run σ) :
    run.Reported engine (run.span engine) (verdictOn run.incident (run.result engine)) := by
  obtain ⟨response, events⟩ := run.exchange_reports engine
  have fits : Verdict (verdictOn run.incident (run.result engine)) (run.exchange engine).response
      run.incident := response ▸ verdict_verdictOn run.incident (run.result engine)
  have served : (verdictOn run.incident (run.result engine)).message = "request served" ↔
      ∃ outcome reply, run.outcome? engine = some outcome ∧ outcome.result = .ok reply := by
    rw [message_verdictOn, exists_comm]
    exact exists_congr fun reply => Run.result_eq_ok_iff reply
  constructor
  case events => exact events
  case once =>
    have alike : isVerdict ∘ (·.within (run.span engine)) = isVerdict := rfl
    rw [events, List.countP_map, alike, List.countP_append, List.countP_singleton,
      if_pos fits.isVerdict]
  case fits => exact fits
  case operation => exact (run.lookup_span engine).1
  case path => exact (run.lookup_span engine).2
  case office => exact Run.lookup_span_office
  case caller => exact Run.lookup_span_caller
  case called => exact run.calls_eq engine
  case served => exact served
  case replied =>
    intro outcome reply called replied
    rw [response, (Run.result_eq_ok_iff reply).mpr ⟨outcome, called, replied⟩]
    rfl
  case implemented =>
    intro resource member isServed
    obtain ⟨outcome, reply, called, replied⟩ := served.mp isServed
    obtain ⟨operation, bound⟩ := BoundResource.mem_bindings.mp member
    simp only [Run.outcome?] at called
    split at called
    · cases called
    · cases called
      rw [bound] at replied ⊢
      exact BoundResource.implements_of_result replied

end Sluice.Resource
