import Sluice.Proofs.Resource.Places
import Sluice.Server.Application

/-!
# Leases of a server

Which requests a connection is leased for, and that each lease is given back before the answer is
there. `Application.takesLease` says for a request what has to hold for it to get a connection; none
of it is about what becomes of the request once it has one. `Application.leases_serve` is the account
of one request, and `Application.accounted_of_assemble?` that of a whole run, in which anything may
become of the data, and with them of the source of connections, between two requests.
-/

namespace Sluice.Resource

variable {σ : Type}

/-- The leases after some more connections were handed out and given back. -/
def Leases.after (count : Nat) (leases : Leases) : Leases :=
  ⟨leases.acquired + count, leases.released + count⟩

theorem Leases.after_after (leases : Leases) (first second : Nat) :
    (leases.after first).after second = leases.after (first + second) := by
  simp only [after, Nat.add_assoc]

/-- Whether all parameters in a path can be decoded. -/
def areDecodable (captures : Route.Captures) : Bool :=
  captures.all fun capture => (decodedIdentifier? capture.2).isSome

/-- Parameters are decoded exactly if each of them can be. -/
theorem isOk_decodeCaptures (captures : Route.Captures) :
    (decodeCaptures captures).isOk = areDecodable captures := by
  induction captures with
  | nil => rfl
  | cons capture rest ih =>
    obtain ⟨name, value⟩ := capture
    have split : areDecodable ((name, value) :: rest) =
        ((decodedIdentifier? value).isSome && areDecodable rest) := rfl
    rw [split, ← ih, decodedIdentifier?, decodeCaptures]
    cases Text.Utf8.decode? (Text.Percent.decode (Text.Utf8.encodeChars value)) with
    | none => rfl
    | some text => cases decodeCaptures rest <;> rfl

/-! ## Through a binding -/

/-- Whether a request that has reached a binding gets a connection: the parameters in its path can be
decoded if the binding is one of items, JSON is accepted, and there is a connection. -/
def Binding.takesLease (binding : Binding σ) (source : Source σ) (captures : Route.Captures)
    (request : Request) (store : σ) : Bool :=
  (!binding.operation.targetsItem || areDecodable captures) && request.negotiate.isOk &&
    (source.acquire store).isOk

/-- The call of an operation takes and gives back no connection of its own. -/
theorem Binding.leases_call (binding : Binding σ) (incident : Incident) (span : Log.Fields)
    (action : Action σ) (shared : Shared σ) :
    (binding.call incident span action shared).shared.leases = shared.leases := by
  unfold Binding.call
  cases result : (action shared.store).result with
  | ok reply => simp only [result]; rfl
  | error failure => simp only [result]; rfl

/-- With a connection, a request is served without another one. -/
theorem Binding.leases_serveLeased (binding : Binding σ) (context : Context)
    (identifier : Option String) (request : Request) (incident : Incident) (shared : Shared σ) :
    (binding.serveLeased context identifier request incident shared).shared.leases =
      shared.leases := by
  unfold Binding.serveLeased
  cases binding.policy.authorize binding.operation (Caller.rolesOf context.caller) with
  | deny reason => rfl
  | allow =>
    cases binding.action context identifier request with
    | error failure => rfl
    | ok action => exact binding.leases_call ..

/-- Dispatch leases a connection if JSON is accepted and there is one, and gives it back. -/
theorem leases_dispatch (engine : Engine σ) (binding : Binding σ) (identifier : Option String)
    (request : Request) (incident : Incident) (shared : Shared σ) :
    (dispatch engine binding identifier request incident shared).shared.leases =
      shared.leases.after
        (request.negotiate.isOk && (engine.source.acquire shared.store).isOk).toNat := by
  unfold dispatch
  cases request.negotiate with
  | error failure => rfl
  | ok _ =>
    cases engine.source.acquire shared.store with
    | error failure => rfl
    | ok _ =>
      have served := binding.leases_serveLeased ⟨engine.office, request.caller⟩ identifier request
        incident shared.lease
      simp only [Shared.release, served]
      rfl

/-- A request that has reached a binding takes a lease as the binding says. -/
theorem leases_dispatchOn (engine : Engine σ) (binding : Binding σ) (captures : Route.Captures)
    (request : Request) (incident : Incident) (shared : Shared σ) :
    (dispatchOn engine binding captures request incident shared).shared.leases =
      shared.leases.after
        (binding.takesLease engine.source captures request shared.store).toNat := by
  have decoded := isOk_decodeCaptures captures
  unfold dispatchOn Binding.takesLease
  cases binding.operation.targetsItem with
  | false => exact leases_dispatch ..
  | true =>
    rw [← decoded]
    cases decodeCaptures captures with
    | error name => rfl
    | ok texts => exact leases_dispatch ..

/-- Whether a route leases a connection for a request. -/
def Endpoint.takesLease (endpoint : Endpoint σ) (source : Source σ) (captures : Route.Captures)
    (request : Request) (store : σ) : Bool :=
  match endpoint with
  | .bound binding => binding.takesLease source captures request store
  | .methods | .unbound => false

/-- A route leases a connection only through a binding. -/
theorem leases_answerOn (engine : Engine σ) (cache : CacheRule) (bindings : List (Binding σ))
    (captures : Route.Captures) (request : Request) (incident : Incident) (shared : Shared σ) :
    (answerOn engine cache bindings captures request incident shared).shared.leases =
      shared.leases.after
        ((endpoint bindings request.method).takesLease engine.source captures request
          shared.store).toNat := by
  unfold answerOn
  cases endpoint bindings request.method with
  | bound binding => exact leases_dispatchOn ..
  | methods | unbound => rfl

end Sluice.Resource

namespace Sluice.Server

open Resource

variable {σ : Type}

/-- Whether a request asks for the health of the server. -/
def isHealthCheck (request : Request) : Bool :=
  request.uri.path == Application.healthPath.toList &&
    (request.method == .get || request.method == .head)

namespace Application

/-! ## The health check among the paths -/

/-- The table of a server that could be assembled has one row for each destination. -/
theorem build?_of_assemble? {settings : Settings} {registry : Registry σ} {source : Source σ}
    {application : Application σ} (assembled : assemble? settings registry source = some application) :
    Route.Table.build? (destinations registry (withoutTrailing settings.server.contextPath)) =
        some application.table ∧
      application.engine.source = source := by
  simp only [assemble?] at assembled
  split at assembled
  · cases assembled
  · obtain ⟨table, built, rfl⟩ := Option.map_eq_some_iff.mp assembled
    exact ⟨built, rfl⟩

/-- The path of the health check as a pattern. -/
theorem parse?_healthPath :
    Route.Pattern.parse? healthPath = some (.plain healthPath.toList) := by
  decide +kernel

/-- A path leads to the health check exactly if it is the path of the health check. -/
theorem find?_eq_health_iff {settings : Settings} {registry : Registry σ} {source : Source σ}
    {application : Application σ} (assembled : assemble? settings registry source = some application)
    (path : List Char) :
    (∃ captures, application.table.find? path = some (.health, captures)) ↔
      path = healthPath.toList := by
  obtain ⟨_, rows, apart⟩ :=
    (Route.Table.build?_eq_some_iff ..).mp (build?_of_assemble? assembled).1
  have row : Route.Table.rowOf (healthPath, (Destination.health : Destination σ)) =
      (.plain healthPath.toList, .health) := by
    simp only [Route.Table.rowOf, parse?_healthPath, Option.getD_some]
  constructor
  · rintro ⟨captures, found⟩
    obtain ⟨pattern, member, matched⟩ := Route.Table.exists_row_of_find? found
    simp only [rows, destinations, List.map_append, List.map_map, List.mem_append, List.mem_map,
      List.map_cons, List.map_nil, List.mem_singleton, row] at member
    rcases member with ⟨entry, _, isResource⟩ | isHealth
    · cases (Prod.mk.inj isResource).2
    · obtain ⟨rfl, _⟩ := Prod.mk.inj isHealth
      exact ((Route.Pattern.match?_plain ..).mp matched).1
  · rintro rfl
    refine ⟨[], Route.Table.find?_plain apart ?_⟩
    rw [rows, ← row]
    exact List.mem_map_of_mem (List.mem_append_right _ List.mem_cons_self)

/-! ## One request -/

/-- The binding that a request is for, with the parameters in its path. -/
def binding? (application : Application σ) (request : Request) :
    Option (Binding σ × Route.Captures) :=
  match application.table.find? request.uri.path with
  | some (.resource bindings, captures) =>
    match endpoint bindings request.method with
    | .bound binding => some (binding, captures)
    | .methods | .unbound => none
  | some (.health, _) | none => none

/-- Whether a request passes the layer that reads the caller from the headers, where they are
believed. -/
def passesIdentity (application : Application σ) (request : Request) : Bool :=
  !application.trustIdentity || (Caller.ofHeaders request.headers).isOk

/-- Whether a request gets a connection from the server. -/
def takesLease (application : Application σ) (request : Request) (store : σ) : Bool :=
  (application.binding? request).any fun (binding, captures) =>
    application.passesIdentity request &&
      binding.takesLease application.engine.source captures request store

/-- Whether a request has the source of connections checked by a lease. -/
def takesCheck (application : Application σ) (request : Request) (store : σ) : Bool :=
  isHealthCheck request && (application.engine.source.acquire store).isOk

/-- Behind the layer that reads the caller, a resource leases as its route does. -/
theorem leases_resourceAnswer (application : Application σ) (bindings : List (Binding σ))
    (captures : Route.Captures) (request : Request) (incident : Incident) (shared : Shared σ) :
    (application.resourceAnswer bindings captures request incident shared).shared.leases =
      shared.leases.after (application.passesIdentity request &&
        (endpoint bindings request.method).takesLease application.engine.source captures request
          shared.store).toNat := by
  unfold resourceAnswer passesIdentity
  cases application.trustIdentity with
  | false => exact leases_answerOn ..
  | true =>
    simp only [if_true, identified]
    cases Caller.ofHeaders request.headers with
    | error failure => rfl
    | ok caller? =>
      cases caller? with
      | none => exact leases_answerOn ..
      | some caller => exact leases_answerOn ..

/-- A health check leases a connection if there is one, and gives it back. -/
theorem leases_healthAnswer (application : Application σ) {acquire : σ → Except Failure Unit}
    (source : application.engine.source = .checkedByLease acquire) (method : Http.Method)
    (shared : Shared σ) :
    (application.healthAnswer method shared).shared.leases =
      shared.leases.after
        ((method == .get || method == .head) && (acquire shared.store).isOk).toNat := by
  unfold healthAnswer
  by_cases asked : method = .get ∨ method = .head
  · have reads : (method == .get || method == .head) = true := by simpa using asked
    rw [if_pos asked, reads, source]
    simp only [Source.checkedByLease]
    cases acquire shared.store <;> rfl
  · have reads : (method == .get || method == .head) = false := by simpa using asked
    rw [if_neg asked, reads]
    rfl

/-- On the route of a resource a server leases as the resource does; a browser's question is not
passed on to it. -/
theorem leases_serve_resource (application : Application σ) {request : Request}
    {bindings : List (Binding σ)} {captures : Route.Captures}
    (found : application.table.find? request.uri.path = some (.resource bindings, captures))
    (incident : Incident) (shared : Shared σ) :
    (application.serve request incident shared).shared.leases =
      shared.leases.after (application.takesLease request shared.store).toNat := by
  have lease : application.takesLease request shared.store =
      (application.passesIdentity request && (endpoint bindings request.method).takesLease
        application.engine.source captures request shared.store) := by
    simp only [takesLease, binding?, found]
    cases endpoint bindings request.method with
    | bound binding => rfl
    | methods | unbound => exact (Bool.and_false _).symm
  rw [lease]
  simp only [serve, found, answering, around]
  by_cases asked : request.method = .options
  · have methods : endpoint bindings request.method = .methods := by rw [endpoint, if_pos asked]
    rw [methods, Endpoint.takesLease, Bool.and_false]
    simp only [asked, beq_self_eq_true, if_true]
    rfl
  · simp only [beq_eq_false_iff_ne.mpr asked, Bool.false_eq_true, if_false]
    exact application.leases_resourceAnswer ..

/-- On the path of the health check a server leases as the check does. -/
theorem leases_serve_health (application : Application σ) {acquire : σ → Except Failure Unit}
    (source : application.engine.source = .checkedByLease acquire) {request : Request}
    {captures : Route.Captures}
    (found : application.table.find? request.uri.path = some (.health, captures))
    (incident : Incident) (shared : Shared σ) :
    (application.serve request incident shared).shared.leases =
      shared.leases.after ((request.method == .get || request.method == .head) &&
        (acquire shared.store).isOk).toNat := by
  simp only [serve, found, answering, around]
  by_cases asked : request.method = .options
  · simp only [asked, beq_self_eq_true, if_true]
    rfl
  · simp only [beq_eq_false_iff_ne.mpr asked, Bool.false_eq_true, if_false]
    exact application.leases_healthAnswer source ..

/-- On any other path a server leases nothing. -/
theorem leases_serve_missing (application : Application σ) {request : Request}
    (found : application.table.find? request.uri.path = none) (incident : Incident)
    (shared : Shared σ) :
    (application.serve request incident shared).shared.leases = shared.leases := by
  simp only [serve, found, answering, around]
  split <;> rfl

/-! ## Runs -/

end Application

/-- A request as it arrives at a server. -/
structure Arrival (σ : Type) where
  request : Request
  incident : Incident
  /-- What has become of the data since the answer before. -/
  meanwhile : σ → σ

/-- A request with what was shared when it arrived, and its exchange. -/
structure Visit (σ : Type) where
  request : Request
  before : Shared σ
  exchange : Exchange σ

/-- What is shared after an answer. -/
def Visit.shared (visit : Visit σ) : Shared σ :=
  visit.exchange.shared

namespace Application

/-- One arrival is served. -/
def visit (application : Application σ) (shared : Shared σ) (arrival : Arrival σ) : Visit σ :=
  let before := { shared with store := arrival.meanwhile shared.store }
  ⟨arrival.request, before, application.serve arrival.request arrival.incident before⟩

/-- Arrivals are served one after another. -/
def visits (application : Application σ) (shared : Shared σ) : List (Arrival σ) → List (Visit σ)
  | [] => []
  | arrival :: later =>
    let visit := application.visit shared arrival
    visit :: application.visits visit.shared later

/-- What is shared at the end of a run. -/
def run (application : Application σ) (shared : Shared σ) (arrivals : List (Arrival σ)) :
    Shared σ :=
  arrivals.foldl (fun shared arrival => (application.visit shared arrival).shared) shared

/-- Whether a connection is leased for a visit. -/
def leasesFor (application : Application σ) (visit : Visit σ) : Bool :=
  application.takesLease visit.request visit.before.store

/-- Whether a visit has the source of connections checked. -/
def checksFor (application : Application σ) (visit : Visit σ) : Bool :=
  application.takesCheck visit.request visit.before.store

/-- The accounts of a run: what holds of the leases at each of its answers and at its end. -/
structure Accounted (application : Application σ) (before : Shared σ)
    (arrivals : List (Arrival σ)) : Prop where
  /-- At every answer each connection has been given back. -/
  returned : ∀ visit ∈ application.visits before arrivals,
    visit.shared.leases.outstanding = 0 ∧
      visit.shared.leases.released = visit.shared.leases.acquired
  /-- A request that takes a lease is handed out one connection, however it is answered, and any
  other but a health check none. -/
  single : ∀ visit ∈ application.visits before arrivals, isHealthCheck visit.request = false →
    visit.shared.leases.acquired =
      visit.before.leases.acquired + (application.leasesFor visit).toNat
  /-- Beside the checks, as many connections are handed out as requests take a lease. -/
  total : (application.run before arrivals).leases.acquired =
    before.leases.acquired + (application.visits before arrivals).countP application.leasesFor +
      (application.visits before arrivals).countP application.checksFor

/-! ## Accounts of an assembled server -/

section Assembled

variable {settings : Settings} {registry : Registry σ} {acquire : σ → Except Failure Unit}
  {application : Application σ}
  (assembled : assemble? settings registry (.checkedByLease acquire) = some application)

include assembled

/-- A request for another path than that of the health check does not have the source checked. -/
theorem takesCheck_of_not_health {request : Request}
    (elsewhere : ∀ captures, application.table.find? request.uri.path ≠ some (.health, captures))
    (store : σ) : application.takesCheck request store = false := by
  have away : request.uri.path ≠ healthPath.toList := fun same => by
    obtain ⟨captures, found⟩ := (find?_eq_health_iff assembled _).mpr same
    exact elsewhere captures found
  have noCheck : isHealthCheck request = false := by simp [isHealthCheck, away]
  rw [takesCheck, noCheck, Bool.false_and]

/-- A server leases a connection for a request that takes a lease or a check, and for no other, and
gives it back. -/
theorem leases_serve (request : Request) (incident : Incident) (shared : Shared σ) :
    (application.serve request incident shared).shared.leases =
      shared.leases.after ((application.takesLease request shared.store).toNat +
        (application.takesCheck request shared.store).toNat) := by
  have source := (build?_of_assemble? assembled).2
  cases found : application.table.find? request.uri.path with
  | none =>
    have noCheck : application.takesCheck request shared.store = false :=
      takesCheck_of_not_health assembled (by simp [found]) _
    have noLease : application.takesLease request shared.store = false := by
      simp only [takesLease, binding?, found, Option.any_none]
    rw [noCheck, noLease]
    exact application.leases_serve_missing found ..
  | some reached =>
    obtain ⟨destination, captures⟩ := reached
    cases destination with
    | resource bindings =>
      have noCheck : application.takesCheck request shared.store = false :=
        takesCheck_of_not_health assembled (by simp [found]) _
      rw [noCheck]
      exact application.leases_serve_resource found ..
    | health =>
      have path := (find?_eq_health_iff assembled _).mp ⟨captures, found⟩
      have noLease : application.takesLease request shared.store = false := by
        simp only [takesLease, binding?, found, Option.any_none]
      have check : application.takesCheck request shared.store =
          ((request.method == .get || request.method == .head) &&
            (acquire shared.store).isOk) := by
        simp only [takesCheck, isHealthCheck, path, beq_self_eq_true, Bool.true_and, source]
        rfl
      rw [noLease, check, Bool.toNat_false, Nat.zero_add]
      exact application.leases_serve_health source found ..

/-- The account of one visit. -/
theorem leases_visit (shared : Shared σ) (arrival : Arrival σ) :
    let visit := application.visit shared arrival
    visit.shared.leases = shared.leases.after
      ((application.leasesFor visit).toNat + (application.checksFor visit).toNat) :=
  leases_serve assembled ..

/-- The account of the visits of a run: each leaves the leases as its account says, and finds them
balanced if they were so at the beginning. -/
theorem leases_of_mem_visits (before : Shared σ) (arrivals : List (Arrival σ))
    (balanced : before.leases.released = before.leases.acquired) :
    ∀ visit ∈ application.visits before arrivals,
      visit.before.leases.released = visit.before.leases.acquired ∧
        visit.shared.leases = visit.before.leases.after
          ((application.leasesFor visit).toNat + (application.checksFor visit).toNat) := by
  induction arrivals generalizing before with
  | nil => simp [visits]
  | cons arrival later ih =>
    have account := leases_visit assembled before arrival
    have onward : (application.visit before arrival).shared.leases.released =
        (application.visit before arrival).shared.leases.acquired := by
      rw [account, Leases.after, balanced]
    intro visit member
    rcases List.mem_cons.mp member with rfl | isLater
    · exact ⟨balanced, account⟩
    · exact ih _ onward visit isLater

/-- The leases at the end of a run. -/
theorem leases_run (before : Shared σ) (arrivals : List (Arrival σ)) :
    (application.run before arrivals).leases = before.leases.after
      ((application.visits before arrivals).countP application.leasesFor +
        (application.visits before arrivals).countP application.checksFor) := by
  induction arrivals generalizing before with
  | nil => rfl
  | cons arrival later ih =>
    have count (holds : Visit σ → Bool) :
        (application.visits before (arrival :: later)).countP holds =
          (holds (application.visit before arrival)).toNat +
            (application.visits (application.visit before arrival).shared later).countP holds := by
      rw [visits, List.countP_cons, Nat.add_comm]
      cases holds (application.visit before arrival) <;> rfl
    have onward : application.run before (arrival :: later) =
        application.run (application.visit before arrival).shared later := rfl
    rw [onward, ih, leases_visit assembled, Leases.after_after, count, count]
    exact congrArg before.leases.after (by omega)

end Assembled

/-- In every run of a server that checks its source of connections by a lease, whatever is asked and
whatever becomes of the data in between, each connection is back before the answer is there, and one
connection is handed out for each request that takes a lease and none for any other, health checks
aside. -/
theorem accounted_of_assemble? {settings : Settings} {registry : Registry σ}
    {acquire : σ → Except Failure Unit} {application : Application σ}
    (assembled : assemble? settings registry (.checkedByLease acquire) = some application)
    (store : σ) (arrivals : List (Arrival σ)) :
    application.Accounted (.start store) arrivals := by
  have accounts := leases_of_mem_visits assembled (.start store) arrivals rfl
  constructor
  case returned =>
    intro visit member
    obtain ⟨balanced, account⟩ := accounts visit member
    rw [account, Leases.outstanding, Leases.after, balanced]
    exact ⟨Nat.sub_self _, rfl⟩
  case single =>
    intro visit member other
    have noCheck : application.checksFor visit = false := by
      rw [checksFor, takesCheck, other, Bool.false_and]
    rw [(accounts visit member).2, noCheck]
    rfl
  case total =>
    rw [leases_run assembled]
    exact (Nat.add_assoc ..).symm

end Application

end Sluice.Server
