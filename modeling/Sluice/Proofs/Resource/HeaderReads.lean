import Sluice.Proofs.Resource.Incidents
import Sluice.Proofs.Resource.Reports
import Sluice.Proofs.Route.Matching

/-!
# Reads of header fields

A read of the header fields alone is served like the read of the whole, and loses the body at the end.
Two requests have an incident each, though, and where a failure is unexpected that shows in the log and
in the body. So the two runs are compared through `Exchange.SameButIncident`, which lets exchanges
differ in nothing but this; their responses state the same length, since all incidents are written with
36 characters. `Router.header_read_mirrors` says what is left of that for the client: the same status,
the same header fields, and no body.
-/

namespace Sluice.Http

/-- Responses that agree in everything but the text of their bodies, which are of the same length. -/
structure Response.SameFrame (first second : Response) : Prop where
  status : first.status = second.status
  headers : first.headers = second.headers
  size : first.body.size? = second.body.size?

namespace Response.SameFrame

variable {first second : Response}

/-- A response is like itself. -/
theorem refl (response : Response) : response.SameFrame response := ⟨rfl, rfl, rfl⟩

/-- Responses of the same length state the same length. -/
theorem withLength (alike : first.SameFrame second) :
    first.withLength.SameFrame second.withLength := by
  obtain ⟨status, headers, size⟩ := alike
  unfold Response.withLength
  rw [size]
  cases second.body.size? with
  | none => exact ⟨status, headers, size⟩
  | some length => exact ⟨status, by rw [headers], size⟩

end Response.SameFrame

end Sluice.Http

namespace Sluice.Resource

variable {σ : Type}

/-! ## Two incidents -/

/-- Events that report the same under two incidents: only a failure that nobody expects is reported
with its incident. -/
inductive SameReport (incident other : Incident) : Log.Event → Log.Event → Prop where
  | same (event : Log.Event) : SameReport incident other event event
  | unhandled (failure : Failure) (span : Option Log.Fields) :
    SameReport incident other { Ruling.unhandledEvent incident failure with span := span }
      { Ruling.unhandledEvent other failure with span := span }

/-- Exchanges that do not differ but in the incidents under which they were made. -/
structure Exchange.SameButIncident (incident other : Incident) (first second : Exchange σ) : Prop where
  response : first.response.SameFrame second.response
  shared : first.shared = second.shared
  events : List.Forall₂ (SameReport incident other) first.events second.events

/-- A failure is ruled on alike under all incidents. -/
theorem Ruling.sameFrame (incident other : Incident) (failure : Failure) :
    (of incident failure).toResponse.SameFrame (of other failure).toResponse ∧
      ∀ span, SameReport incident other { (of incident failure).event with span := span }
        { (of other failure).event with span := span } := by
  cases found : Taxonomy.find? failure with
  | some mapping =>
    rw [of_claimed found, of_claimed found]
    exact ⟨.refl _, fun span => .same _⟩
  | none =>
    rw [of_unclaimed found, of_unclaimed found, toResponse_eq, toResponse_eq]
    refine ⟨⟨rfl, rfl, ?size⟩, fun span => .unhandled failure span⟩
    exact congrArg some (Envelope.utf8ByteSize_ofIncident incident other)

/-- A result is answered and reported alike under all incidents. -/
theorem sameFrame_responseTo (incident other : Incident) (result : Except Failure Reply) :
    (responseTo incident result).SameFrame (responseTo other result) ∧
      ∀ span, SameReport incident other ((verdictOn incident result).within span)
        ((verdictOn other result).within span) := by
  cases result with
  | ok reply => exact ⟨.refl _, fun span => .same _⟩
  | error failure =>
    obtain ⟨response, event⟩ := Ruling.sameFrame incident other failure
    exact ⟨response, fun span => event (some span)⟩

/-- What all requests share afterwards does not depend on the incident of a request. -/
theorem shared_dispatch (engine : Engine σ) (binding : Binding σ) (identifier : Option String)
    (request : Request) (incident other : Incident) (shared : Shared σ) :
    (dispatch engine binding identifier request incident shared).shared =
      (dispatch engine binding identifier request other shared).shared := by
  rw [dispatch_eq, dispatch_eq]
  split
  · rfl
  · simp only [Binding.call]
    split <;> rfl

/-- A dispatch goes alike under all incidents. -/
theorem sameButIncident_dispatch (engine : Engine σ) (binding : Binding σ)
    (identifier : Option String) (request : Request) (incident other : Incident)
    (shared : Shared σ) :
    (dispatch engine binding identifier request incident shared).SameButIncident incident other
      (dispatch engine binding identifier request other shared) := by
  let run (incident : Incident) : Run σ := ⟨binding, identifier, request, incident, shared⟩
  obtain ⟨response, events⟩ := (run incident).exchange_reports engine
  obtain ⟨response', events'⟩ := (run other).exchange_reports engine
  obtain ⟨answered, reported⟩ := sameFrame_responseTo incident other ((run incident).result engine)
  constructor
  case response => exact response ▸ response' ▸ answered
  case shared => exact shared_dispatch ..
  case events =>
    change List.Forall₂ _ ((run incident).exchange engine).events ((run other).exchange engine).events
    rw [events, events', List.map_append, List.map_append]
    -- What the operation reports itself is the same, and the verdict stands behind it.
    refine List.rel_append (List.forall₂_same.mpr fun event _ => .same event) ?_
    exact .cons (reported _) .nil

/-- A request that has reached a binding is served alike under all incidents. -/
theorem sameButIncident_dispatchOn (engine : Engine σ) (binding : Binding σ)
    (captures : Route.Captures) (request : Request) (incident other : Incident)
    (shared : Shared σ) :
    (dispatchOn engine binding captures request incident shared).SameButIncident incident other
      (dispatchOn engine binding captures request other shared) := by
  unfold dispatchOn
  split
  · cases decodeCaptures captures with
    | ok texts => exact sameButIncident_dispatch ..
    | error name =>
      obtain ⟨response, event⟩ := Ruling.sameFrame incident other (undecodable binding name)
      exact ⟨response, rfl, .cons (event none) .nil⟩
  · exact sameButIncident_dispatch ..

/-! ## Two methods -/

/-- A request made for the header fields alone. -/
def Request.asHead (request : Request) : Request := { request with method := .head }

/-- A request made for the whole. -/
def Request.asGet (request : Request) : Request := { request with method := .get }

/-- On every route, both kinds of reads are answered the same way. -/
theorem endpoint_head (bindings : List (Binding σ)) :
    endpoint bindings .head = endpoint bindings .get := rfl

/-- The rule of a router applies to both kinds of reads, in the same cases. -/
theorem CacheRule.sameFrame_apply (cache : CacheRule) {first second : Http.Response}
    (alike : first.SameFrame second) :
    (cache.apply .head first).SameFrame (cache.apply .get second) := by
  have applies : applies .head first = applies .get second := by
    simp only [CacheRule.applies, alike.status, alike.headers]
    rfl
  unfold apply
  rw [applies]
  split
  · exact ⟨alike.status, by rw [alike.headers], alike.size⟩
  · exact alike

/-- Both kinds of reads are answered alike on a route. -/
theorem sameButIncident_answerOn (engine : Engine σ) (cache : CacheRule) (bindings : List (Binding σ))
    (captures : Route.Captures) (request : Request) (incident other : Incident)
    (shared : Shared σ) :
    (answerOn engine cache bindings captures request.asHead incident shared).SameButIncident
      incident other (answerOn engine cache bindings captures request.asGet other shared) := by
  have asked : endpoint bindings request.asHead.method = endpoint bindings request.asGet.method :=
    endpoint_head bindings
  unfold answerOn
  rw [asked]
  cases endpoint bindings request.asGet.method with
  | bound binding =>
    have alike :=
      sameButIncident_dispatchOn engine binding captures request.asGet incident other shared
    exact ⟨cache.sameFrame_apply alike.response, alike.shared, alike.events⟩
  | methods | unbound => exact ⟨.refl _, rfl, .nil⟩

/-- The methods of a route are told alike to both kinds of reads. -/
theorem sameFrame_withAllow (bindings : List (Binding σ)) {first second : Http.Response}
    (alike : first.SameFrame second) :
    (withAllow bindings .head first).SameFrame (withAllow bindings .get second) := by
  unfold withAllow
  rw [endpoint_head]
  cases endpoint bindings .get with
  | unbound => exact ⟨alike.status, by rw [alike.headers], alike.size⟩
  | bound _ | methods => exact alike

/-! ## Calls of a router -/

/-- A router whose bindings note their calls. -/
def Router.noted (router : Router σ) : Router (σ × List Call) where
  engine := router.engine.recording
  cache := router.cache
  table := router.table.map fun row => (row.1, row.2.map Binding.noted)

/-- The calls that a router makes for a request. -/
def Router.calls (router : Router σ) (request : Request) (incident : Incident)
    (shared : Shared σ) : List Call :=
  (router.noted.serve request incident (shared.withRecord [])).shared.store.2

/-- A router makes the calls of the dispatch that a request reaches, with the binding and the identifier
that it finds for it. -/
theorem Router.calls_eq (router : Router σ) (request : Request) (incident : Incident)
    (shared : Shared σ) :
    router.calls request incident shared =
      match router.binding? request with
      | none => []
      | some (binding, captures) =>
        match binding.captured captures with
        | .error _ => []
        | .ok identifier =>
          Run.calls ⟨binding, identifier, request, incident, shared⟩ router.engine := by
  have noted := Route.Table.find?_map router.table (List.map Binding.noted) request.uri.path
  unfold calls
  cases found : router.table.find? request.uri.path with
  | none =>
    rw [found] at noted
    simp only [binding?, serve, Router.noted, found, noted]
    rfl
  | some entry =>
    obtain ⟨bindings, captures⟩ := entry
    rw [found] at noted
    have asked := endpoint_map (fun binding => (rfl : binding.noted.method = _)) bindings
      request.method
    cases reached : endpoint bindings request.method with
    | methods | unbound =>
      rw [reached] at asked
      simp only [binding?, serve, Router.noted, found, noted, Option.map_some, reached, answerOn,
        asked, Endpoint.map]
      rfl
    | bound binding =>
      rw [reached] at asked
      rw [(binding?_eq_some_iff found binding).mpr reached, serve_of_reached noted asked]
      simp only [Exchange.sent, Router.noted, dispatchOn, Binding.captured]
      have same : binding.noted.operation = binding.operation := rfl
      rw [same]
      split
      · cases decodeCaptures captures <;> rfl
      · rfl

/-- The exchange for the header fields mirrors that for the whole. -/
structure Exchange.Mirrors (incident other : Incident) (head get : Exchange σ) : Prop where
  status : head.response.status = get.response.status
  headers : head.response.headers = get.response.headers
  /-- Only the body is left out. -/
  body : head.response.body = .none
  /-- The data, the leases and the number of calls are the same afterwards. -/
  shared : head.shared = get.shared
  /-- The same is reported, up to the identifiers of the incidents. -/
  events : List.Forall₂ (SameReport incident other) head.events get.events

namespace Router

/-- A read of the header fields mirrors the read of the whole. -/
theorem mirrors_serve (router : Router σ) (request : Request) (incident other : Incident)
    (shared : Shared σ) :
    (router.serve request.asHead incident shared).Mirrors incident other
      (router.serve request.asGet other shared) := by
  simp only [serve, show request.asHead.uri = request.asGet.uri from rfl]
  cases router.table.find? request.asGet.uri.path with
  | none => exact ⟨rfl, rfl, rfl, rfl, .nil⟩
  | some entry =>
    obtain ⟨bindings, captures⟩ := entry
    obtain ⟨response, shared, events⟩ := sameButIncident_answerOn router.engine router.cache
      bindings captures request incident other shared
    have sent := (sameFrame_withAllow bindings response).withLength
    exact ⟨sent.status, sent.headers, rfl, shared, events⟩

/-- A read reaches the same binding whether the whole is asked for or not. -/
theorem binding?_asHead (router : Router σ) (request : Request) :
    router.binding? request.asHead = router.binding? request.asGet := rfl

/-- The calls of a read do not depend on whether the whole is asked for, and on no incident. -/
theorem calls_asHead (router : Router σ) (request : Request) (incident other : Incident)
    (shared : Shared σ) :
    router.calls request.asHead incident shared = router.calls request.asGet other shared := by
  rw [calls_eq, calls_eq, binding?_asHead]
  cases router.binding? request.asGet with
  | none => rfl
  | some entry =>
    obtain ⟨binding, captures⟩ := entry
    dsimp only
    cases binding.captured captures with
    | error failure => rfl
    | ok identifier =>
      simp only [Run.calls, calls_dispatch_noted]
      rfl

/-- In every router, a request for the header fields alone and the same request for the whole reach the
same binding and make the same call with the same inputs, if any. They are answered with the same status
and the same header fields, the former without a body, and leave the same behind in the data, the leases
and the log, where only the identifiers of their incidents differ. -/
theorem header_read_mirrors (router : Router σ) (request : Request) (incident other : Incident)
    (shared : Shared σ) :
    router.binding? request.asHead = router.binding? request.asGet ∧
      router.calls request.asHead incident shared = router.calls request.asGet other shared ∧
      (router.serve request.asHead incident shared).Mirrors incident other
        (router.serve request.asGet other shared) :=
  ⟨router.binding?_asHead request, router.calls_asHead request incident other shared,
    router.mirrors_serve request incident other shared⟩

end Router

end Sluice.Resource
