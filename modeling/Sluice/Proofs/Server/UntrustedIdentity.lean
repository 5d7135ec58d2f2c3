import Sluice.Proofs.Resource.Anonymous
import Sluice.Proofs.Server.Answers
import Sluice.Proofs.Server.Rebasing
import Sluice.Proofs.Server.Recording

/-!
# Identity headers that are not believed

A server that does not believe the headers which name a caller does not look at them either: requests
that differ in nothing but these get the same exchange, and so do series of them. As nothing else makes
a caller of what a client sends, no write is ever called in a run of such requests.
-/

namespace Sluice.Resource

variable {σ : Type}

/-- The names of the header fields that name a caller. -/
def identityFields : List String := [Caller.userHeader, Caller.rolesHeader]

/-- Requests that differ at most in the header fields that name a caller. -/
structure Request.SameButIdentity (first second : Request) : Prop where
  method : first.method = second.method
  uri : first.uri = second.uri
  body : first.body = second.body
  caller : first.caller = second.caller
  headers : ∀ name, name ∉ identityFields → first.headers.all name = second.headers.all name

namespace Request.SameButIdentity

variable {first second : Request}

/-- The first value of any other field is the same. -/
theorem first? (same : first.SameButIdentity second) {name : String}
    (other : name ∉ identityFields) : first.headers.first? name = second.headers.first? name := by
  rw [Http.Headers.first?_eq_head?, Http.Headers.first?_eq_head?, same.headers name other]

/-- The same formats are accepted. -/
theorem negotiate (same : first.SameButIdentity second) : first.negotiate = second.negotiate := by
  have values : first.acceptValues = second.acceptValues := by
    rw [Request.acceptValues, Request.acceptValues, same.headers "accept" (by decide)]
  rw [Request.negotiate, Request.negotiate, values]

/-- The same body is declared to be of the same type. -/
theorem payload (same : first.SameButIdentity second) : first.payload = second.payload := by
  simp only [Request.payload, same.body, same.first? (by decide : "content-type" ∉ identityFields)]

/-- Requests of one caller are dispatched alike. -/
theorem dispatch_eq (same : first.SameButIdentity second) (engine : Engine σ) (binding : Binding σ)
    (identifier : Option String) (incident : Incident) (shared : Shared σ) :
    dispatch engine binding identifier first incident shared =
      dispatch engine binding identifier second incident shared := by
  simp only [dispatch, Binding.serveLeased, Binding.action, same.negotiate, same.caller, same.uri,
    same.payload]

/-- Requests of one caller are answered alike on every route. -/
theorem answerOn_eq (same : first.SameButIdentity second) (engine : Engine σ) (cache : CacheRule)
    (bindings : List (Binding σ)) (captures : Route.Captures) (incident : Incident)
    (shared : Shared σ) :
    answerOn engine cache bindings captures first incident shared =
      answerOn engine cache bindings captures second incident shared := by
  simp only [answerOn, dispatchOn, same.method, same.dispatch_eq]

end Request.SameButIdentity

end Sluice.Resource

namespace Sluice.Server

open Resource

variable {σ : Type} {first second : Request}

namespace CrossOrigin

/-- Browsers are told the same about requests from one origin. -/
theorem shared_eq (same : first.SameButIdentity second) (cross : CrossOrigin)
    (answer : Http.Headers) : cross.shared first.headers answer = cross.shared second.headers answer := by
  simp only [shared, allowedFor, same.first? (by decide : "origin" ∉ identityFields)]

end CrossOrigin

namespace Application

/-- A server that does not believe the fields which name a caller serves requests alike that differ in
nothing else. -/
theorem serve_eq_of_untrusted (application : Application σ)
    (untrusted : application.trustIdentity = false) (same : first.SameButIdentity second)
    (incident : Incident) (shared : Shared σ) :
    application.serve first incident shared = application.serve second incident shared := by
  have codings := same.headers "accept-encoding" (by decide)
  simp only [serve, around, resourceAnswer, untrusted, Bool.false_eq_true, if_false,
    CrossOrigin.preflight, CrossOrigin.told, CrossOrigin.shared_eq same, codings, same.method, same.uri,
    same.answerOn_eq]

end Application

/-! ## Runs -/

/-- Arrivals whose requests differ at most in the fields that name a caller. -/
structure Arrival.SameButIdentity (first second : Arrival σ) : Prop where
  request : first.request.SameButIdentity second.request
  incident : first.incident = second.incident
  meanwhile : first.meanwhile = second.meanwhile

namespace Application

/-- A server that does not believe the fields which name a caller serves series of requests alike that
differ in nothing else. -/
theorem visits_eq_of_untrusted (application : Application σ)
    (untrusted : application.trustIdentity = false) {arrivals others : List (Arrival σ)}
    (same : List.Forall₂ Arrival.SameButIdentity arrivals others) (shared : Shared σ) :
    (application.visits shared arrivals).map (·.exchange) =
      (application.visits shared others).map (·.exchange) := by
  induction same generalizing shared with
  | nil => rfl
  | @cons arrival other _ _ alike _ ih =>
    have exchange : (application.visit shared arrival).exchange =
        (application.visit shared other).exchange := by
      simp only [visit, alike.incident, alike.meanwhile,
        application.serve_eq_of_untrusted untrusted alike.request]
    simp only [visits, List.map_cons, Visit.shared, exchange]
    rw [ih]

section Assembled

variable {settings : Settings} {registry : Registry σ} {source : Source σ}
  {application : Application σ} (assembled : assemble? settings registry source = some application)
  (untrusted : application.trustIdentity = false) {resources : List (BoundResource σ)}
  (bound : registry.bindings = resources.flatMap BoundResource.bindings) {Inv : σ → Prop}
  (reads : ∀ resource ∈ resources, ∀ operation, operation.isRead = true →
    (resource.binding operation).invocation.Keeps Inv)
  (checks : ∀ shared, Inv shared.store → Inv (source.check shared).2.store)

include assembled untrusted bound reads checks

/-- What the reads of all resources and the check of the source keep is kept by every request that
comes without a caller. -/
theorem keeps_serve {request : Request} (nobody : request.caller = none) (incident : Incident)
    {shared : Shared σ} (holds : Inv shared.store) :
    Inv (application.serve request incident shared).shared.store := by
  cases reached : application.binding? request with
  | none =>
    rcases store_serve_of_unbound reached incident shared with kept | checked
    · exact kept ▸ holds
    · rw [checked, (build?_of_assemble? assembled).2]
      exact checks shared holds
  | some entry =>
    obtain ⟨binding, captures⟩ := entry
    obtain ⟨bindings, found, isBound⟩ := exists_route_of_binding? reached
    have member := mem_of_binding? assembled reached
    rw [bound, List.mem_flatMap] at member
    obtain ⟨resource, isResource, member⟩ := member
    obtain ⟨operation, rfl⟩ := BoundResource.mem_bindings.mp member
    rw [shared_serve]
    split
    · exact holds
    · simp only [answer, found, resourceAnswer, untrusted, Bool.false_eq_true, if_false, answerOn,
        isBound]
      exact BoundResource.keeps_dispatchOn (reads resource isResource operation) nobody _ _ _ holds

/-- What they keep is kept by every run of requests that come without a caller, as long as it is kept
in between. -/
theorem keeps_run {arrivals : List (Arrival σ)}
    (nobody : ∀ arrival ∈ arrivals, arrival.request.caller = none)
    (meanwhile : ∀ arrival ∈ arrivals, ∀ store, Inv store → Inv (arrival.meanwhile store))
    {shared : Shared σ} (holds : Inv shared.store) :
    Inv (application.run shared arrivals).store := by
  induction arrivals generalizing shared with
  | nil => exact holds
  | cons arrival later ih =>
    have arrived := meanwhile arrival List.mem_cons_self shared.store holds
    have served : Inv (application.visit shared arrival).shared.store :=
      keeps_serve assembled untrusted bound reads checks (nobody arrival List.mem_cons_self)
        arrival.incident arrived
    exact ih (fun other isLater => nobody other (List.mem_cons_of_mem arrival isLater))
      (fun other isLater => meanwhile other (List.mem_cons_of_mem arrival isLater)) served

end Assembled

/-- A server to which the fields that name a caller mean nothing. -/
structure IgnoresIdentity (application : Application σ) : Prop where
  exchange : ∀ (first second : Request) incident shared, first.SameButIdentity second →
    application.serve first incident shared = application.serve second incident shared
  exchanges : ∀ (arrivals others : List (Arrival σ)) shared,
    List.Forall₂ Arrival.SameButIdentity arrivals others →
      (application.visits shared arrivals).map (·.exchange) =
        (application.visits shared others).map (·.exchange)

/-- A server that calls no operation but reads while requests come without a caller, as another server
records that does the same. -/
structure CallsReadsAlone (application : Application σ)
    (recorder : Application (σ × List Operation)) : Prop where
  same : ∀ (shared : Shared σ) (arrivals : List (Arrival σ)),
    (∀ arrival ∈ arrivals, arrival.request.caller = none) →
      (recorder.visits (shared.withRecord []) (arrivals.map Arrival.recording)).map
          (·.exchange.unrecorded) =
        (application.visits shared arrivals).map (·.exchange)
  reads : ∀ (shared : Shared σ) (arrivals : List (Arrival σ)),
    (∀ arrival ∈ arrivals, arrival.request.caller = none) →
      ∀ operation ∈
          (recorder.run (shared.withRecord []) (arrivals.map Arrival.recording)).store.2,
        operation.isRead = true

/-- Where settings do not believe the fields that name a caller, these have no effect: whatever server
is assembled, requests and series of requests that differ in nothing else get the same exchanges. And
whatever has been offered, in every run of requests as clients send them no operation is called but
reads, as is seen with handlers that record it. -/
theorem identity_headers_ignored (settings : Settings)
    (untrusted : settings.access.trustIdentity = false) :
    (∀ (σ : Type) (registry : Registry σ) (source : Source σ) (application : Application σ),
      assemble? settings registry source = some application → application.IgnoresIdentity) ∧
    ∀ (σ : Type) (offers : List (Offer σ)) (source : Source σ) (application : Application σ),
      assemble? settings (Registration.run offers).registry source = some application →
        ∃ recorder : Application (σ × List Operation),
          assemble? settings (Registration.run (offers.map Offer.recording)).registry
              source.recording = some recorder ∧
          application.CallsReadsAlone recorder := by
  refine ⟨?ignored, ?uncalled⟩
  case ignored =>
    intro σ registry source application assembled
    have disbelieves := (rules_of_assemble? assembled).2.trans untrusted
    exact ⟨fun first second incident shared same =>
        application.serve_eq_of_untrusted disbelieves same incident shared,
      fun arrivals others shared same =>
        application.visits_eq_of_untrusted disbelieves same shared⟩
  case uncalled =>
    intro σ offers source application assembled
    have recorded : assemble? settings (Registration.run (offers.map Offer.recording)).registry
        source.recording = some application.recording := by
      rw [Registration.run_recording]
      exact (assemble?_recording ..).trans (congrArg (Option.map recording) assembled)
    refine ⟨application.recording, recorded, ?same, ?reads⟩
    case same =>
      exact fun shared arrivals _ => application.visits_recording arrivals (shared.withRecord [])
    case reads =>
      intro shared arrivals nobody
      have disbelieves := (rules_of_assemble? recorded).2.trans untrusted
      obtain ⟨resources, holds⟩ := Registration.exists_holds_run offers
      have bound : (Registration.run (offers.map Offer.recording)).registry.bindings =
          (resources.map BoundResource.recording).flatMap BoundResource.bindings := by
        rw [Registration.run_recording]
        exact Registry.bindings_recording holds.bindings
      change RecordsReads (application.recording.run _ _).store
      refine keeps_run recorded disbelieves bound ?operations ?checks ?nobody ?meanwhile ?start
      case operations =>
        intro resource member operation read
        obtain ⟨plain, _, rfl⟩ := List.mem_map.mp member
        exact plain.recording_keeps read
      case checks => exact fun shared kept => kept
      case nobody =>
        intro arrival member
        obtain ⟨plain, isPlain, rfl⟩ := List.mem_map.mp member
        exact nobody plain isPlain
      case meanwhile =>
        intro arrival member store kept
        obtain ⟨plain, _, rfl⟩ := List.mem_map.mp member
        exact kept
      case start => exact fun operation member => nomatch member

/-- A read and a deletion with forged fields: only the former is called, and a deletion without the
fields gets the same exchange. -/
theorem forged_identity_ignored :
    let done : Action Unit := .pure (.ok .noContent)
    let handler : Handler Unit := { fetchOne := some fun _ _ => done, delete := some fun _ _ => done }
    let offers : List (Offer Unit) := [⟨"/a/\x7bid\x7d", handler, .writtenBy ["W"]⟩]
    let source : Source Unit := .checkedByLease fun _ => .ok ()
    let forged : Http.Headers := [⟨"x-cda-user", .ofText "q0hec"⟩, ⟨"x-cda-roles", .ofText "W"⟩]
    let request (method : Http.Method) (headers : Http.Headers) : Request :=
      ⟨method, ⟨"/cwms-data/a/b".toList, none⟩, headers, [], none⟩
    let arrivals : List (Arrival Unit) :=
      [⟨request .get forged, ⟨0⟩, id⟩, ⟨request .delete forged, ⟨1⟩, id⟩]
    Settings.standard.access.trustIdentity = false ∧
      (∀ arrival ∈ arrivals, arrival.request.caller = none) ∧
      (request .delete forged).SameButIdentity (request .delete []) ∧
      ∃ application recorder, assemble? .standard (Registration.run offers).registry source =
          some application ∧
        assemble? .standard (Registration.run (offers.map Offer.recording)).registry
          source.recording = some recorder ∧
        application.serve (request .delete forged) ⟨1⟩ (.start ()) =
          application.serve (request .delete []) ⟨1⟩ (.start ()) ∧
        (recorder.run ((Shared.start ()).withRecord []) (arrivals.map Arrival.recording)).store.2 =
          [.fetchOne] ∧
        ∀ operation ∈ (recorder.run ((Shared.start ()).withRecord [])
            (arrivals.map Arrival.recording)).store.2, operation.isRead = true := by
  intro done handler offers source forged request arrivals
  have untrusted : Settings.standard.access.trustIdentity = false := rfl
  have nobody : ∀ arrival ∈ arrivals, arrival.request.caller = none := by simp [arrivals, request]
  have same : (request .delete forged).SameButIdentity (request .delete []) := by
    refine ⟨rfl, rfl, rfl, rfl, fun name other => ?_⟩
    simp only [identityFields, Caller.userHeader, Caller.rolesHeader, List.mem_cons,
      List.not_mem_nil, or_false, not_or] at other
    simp [request, forged, Http.Headers.all, Ne.symm other.1, Ne.symm other.2]
  have stands : (assemble? .standard (Registration.run offers).registry source).isSome = true := by
    decide +kernel
  have ended : (assemble? .standard (Registration.run (offers.map Offer.recording)).registry
      source.recording).map (fun recorder =>
        (recorder.run ((Shared.start ()).withRecord []) (arrivals.map Arrival.recording)).store.2) =
      some [.fetchOne] := by
    decide +kernel
  obtain ⟨application, assembled⟩ := Option.isSome_iff_exists.mp stands
  obtain ⟨ignored, uncalled⟩ := identity_headers_ignored .standard untrusted
  obtain ⟨recorder, recording, runs⟩ := uncalled Unit offers source application assembled
  rw [recording, Option.map_some, Option.some.injEq] at ended
  exact ⟨untrusted, nobody, same, application, recorder, assembled, recording,
    (ignored _ _ _ application assembled).exchange _ _ ⟨1⟩ _ same, ended,
    runs.reads (.start ()) arrivals nobody⟩

end Application

end Sluice.Server
