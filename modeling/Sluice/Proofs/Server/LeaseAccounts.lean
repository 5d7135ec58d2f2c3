import Sluice.Proofs.Server.Rebasing

/-!
# Accounts of leases

Which requests get a connection, told by their paths: what a request for an item must have is an
identifier that can be decoded, which is the last segment of its path. Where the mount has no colon that
is all there is to decode, and exactly the requests of `Application.meetsLease` get a connection. The
text in the place of a parameter of the mount is decoded together with the identifier, though, so under
a mount with a colon such a request may get none, as `Application.undecodable_mount_not_leased` shows.
-/

namespace Sluice.Server

open Resource Route

variable {σ : Type}

/-- The last segment of a path. -/
def lastSegment (path : List Char) : List Char :=
  path.rtakeWhile (· ≠ '/')

/-- The last segment is what stands behind the last separator. -/
theorem lastSegment_append (before : List Char) {value : List Char} (segment : '/' ∉ value) :
    lastSegment (before ++ '/' :: value) = value := by
  have clean : ∀ c ∈ value.reverse, decide (c ≠ '/') = true := by
    intro c member
    have inValue := List.mem_reverse.mp member
    exact decide_eq_true fun same => segment (same ▸ inValue)
  have reversed : (before ++ '/' :: value).reverse = value.reverse ++ '/' :: before.reverse := by
    simp
  rw [lastSegment, List.rtakeWhile, reversed, List.takeWhile_append_of_pos clean]
  simp

namespace Application

/-- Whether a request has all that a lease takes: it has reached a binding and passes the layer that
reads the caller, its identifier can be decoded if it is for an item, JSON is accepted, and there is a
connection. -/
def meetsLease (application : Application σ) (request : Request) (store : σ) : Bool :=
  (application.binding? request).any fun (binding, _) =>
    application.passesIdentity request &&
      ((!binding.operation.targetsItem ||
          (decodedIdentifier? (lastSegment request.uri.path)).isSome) &&
        request.negotiate.isOk && (application.engine.source.acquire store).isOk)

/-- How the requests that take a lease stand to those that have all that a lease takes. -/
structure LeasesAsMet (settings : Settings) (application : Application σ) : Prop where
  only : ∀ request store, application.takesLease request store = true →
    application.meetsLease request store = true
  /-- A mount without a colon takes nothing more. -/
  literal : ':' ∉ settings.mount → ∀ request store,
    application.takesLease request store = application.meetsLease request store

section Registered

variable {settings : Settings} {registry : Registry σ} {source : Source σ}
  {application : Application σ} {resources : List (BoundResource σ)}
  (valid : settings.validate.isOk = true)
  (held : registry.bindings = resources.flatMap BoundResource.bindings)
  (distinct : resources.Pairwise fun first second => first.base ≠ second.base)
  (assembled : assemble? settings registry source = some application)

include valid held distinct assembled

/-- The last parameter of a request for an item is the last segment of its path; those in front of it
are parameters of the mount. -/
theorem exists_captures_of_item {request : Request} {binding : Binding σ} {captures : Captures}
    (bound : application.binding? request = some (binding, captures))
    (item : binding.operation.targetsItem = true) :
    ∃ own name, captures = own ++ [(name, lastSegment request.uri.path)] ∧
      (':' ∉ settings.mount → own = []) := by
  obtain ⟨router, built⟩ := exists_router_of_assemble? valid held distinct assembled
    ⟨source, settings.offices, settings.server.contextPath⟩ settings.cache
  obtain ⟨resource, _, lane, front, rest, own, caught, path, fills, member, matched, captured⟩ :=
    exists_lane_of_binding? valid held distinct built assembled bound
  obtain rfl := BoundResource.lane_eq_item member item
  obtain ⟨value, ⟨split, _, segment⟩, alone⟩ := (resource.match?_item ..).mp matched
  have last : lastSegment request.uri.path = value := by
    rw [path, split, ← List.append_assoc, lastSegment_append _ segment]
  refine ⟨own, resource.template.identifierName.toList, by rw [captured, alone, last], ?_⟩
  exact fun uncolored => (eq_mount_of_fills valid held distinct built assembled uncolored fills).2

/-- What a lease takes beside what `meetsLease` asks for is that the parameters of the mount can be
decoded, if the request is for an item. -/
theorem exists_takesLease_eq (request : Request) (store : σ) :
    ∃ decodable, (':' ∉ settings.mount → decodable = true) ∧
      application.takesLease request store =
        (application.meetsLease request store && decodable) := by
  unfold takesLease meetsLease
  cases bound : application.binding? request with
  | none => exact ⟨true, fun _ => rfl, rfl⟩
  | some reached =>
    obtain ⟨binding, captures⟩ := reached
    simp only [Option.any_some, Binding.takesLease]
    cases item : binding.operation.targetsItem with
    | false =>
      refine ⟨true, fun _ => rfl, ?_⟩
      simp only [Bool.not_false, Bool.true_or, Bool.true_and, Bool.and_true]
    | true =>
      obtain ⟨own, name, captured, literal⟩ :=
        exists_captures_of_item valid held distinct assembled bound item
      refine ⟨areDecodable own, fun uncolored => by rw [literal uncolored]; rfl, ?_⟩
      simp only [captured, areDecodable, List.all_append, List.all_cons, List.all_nil,
        Bool.and_true, Bool.not_true, Bool.false_or]
      ac_rfl

/-- A request takes a lease only if it has all that a lease takes, and under a mount without a colon
exactly then. -/
theorem leasesAsMet_of_assemble? : LeasesAsMet settings application := by
  constructor
  case only =>
    intro request store takes
    obtain ⟨decodable, _, same⟩ :=
      exists_takesLease_eq valid held distinct assembled request store
    rw [same, Bool.and_eq_true] at takes
    exact takes.1
  case literal =>
    intro uncolored request store
    obtain ⟨decodable, literal, same⟩ :=
      exists_takesLease_eq valid held distinct assembled request store
    rw [same, literal uncolored, Bool.and_true]

end Registered

/-- In every run of a server that checks its source of connections by a lease, whatever is asked and
whatever becomes of the data in between, each connection is back before the answer is there, and one
connection is handed out for each request that takes a lease and none for any other, health checks
aside. A request of a server with registered resources takes a lease only if it has all that a lease
takes, and exactly then if there is no colon in the mount. -/
theorem leases_accounted (settings : Settings) (registry : Registry σ)
    (acquire : σ → Except Failure Unit) {application : Application σ}
    (assembled : assemble? settings registry (.checkedByLease acquire) = some application)
    (store : σ) (arrivals : List (Arrival σ)) :
    application.Accounted (.start store) arrivals ∧
      ∀ offers, registry = (Registration.run offers).registry → settings.validate.isOk = true →
        LeasesAsMet settings application := by
  refine ⟨accounted_of_assemble? assembled store arrivals, ?_⟩
  rintro offers rfl valid
  obtain ⟨resources, holds⟩ := Registration.exists_holds_run offers
  exact leasesAsMet_of_assemble? valid holds.bindings holds.distinct assembled

/-- A run with a read of an item, a deletion that is denied, a health check, a path that leads
nowhere and a read after the source has closed. -/
theorem mixed_run_accounted :
    let offers : List (Offer Bool) := [⟨"/a/\x7bid\x7d", {}, .writtenBy ["W"]⟩]
    let registry := (Registration.run offers).registry
    let acquire (isOpen : Bool) : Except Failure Unit :=
      if isOpen then .ok () else .error (.database .poolClosed)
    let arrival (method : Http.Method) (path : String) (meanwhile : Bool → Bool) : Arrival Bool :=
      ⟨⟨method, ⟨path.toList, none⟩, [], [], none⟩, ⟨0⟩, meanwhile⟩
    let arrivals :=
      [ arrival .get "/cwms-data/a/b" id, arrival .delete "/cwms-data/a/b" id,
        arrival .get "/health" id, arrival .get "/a/b" id,
        arrival .get "/cwms-data/a" fun _ => false ]
    ∃ application, assemble? .standard registry (.checkedByLease acquire) = some application ∧
      application.Accounted (.start true) arrivals ∧ LeasesAsMet .standard application ∧
      (application.run (.start true) arrivals).leases = ⟨3, 3⟩ := by
  intro offers registry acquire arrival arrivals
  have ended : (assemble? .standard registry (.checkedByLease acquire)).map
      (fun application => (application.run (.start true) arrivals).leases) = some ⟨3, 3⟩ := by
    decide +kernel
  obtain ⟨application, assembled, leases⟩ := Option.map_eq_some_iff.mp ended
  have valid : (Settings.standard).validate.isOk = true := by
    simp [Settings.validate, Settings.standard]
    rfl
  obtain ⟨accounted, asMet⟩ :=
    leases_accounted .standard registry acquire assembled true arrivals
  exact ⟨application, assembled, accounted, asMet offers rfl valid, leases⟩

/-- A context path that stands for any segment. A request there for an item reaches the binding, its
identifier can be decoded, JSON is accepted and there is a connection; but the segment in the place
of the context path cannot be decoded, and none is leased. -/
theorem undecodable_mount_not_leased :
    let settings : Settings := { Settings.standard with server.contextPath := "/:t" }
    let registry := (Registration.run [⟨"/b/\x7bid\x7d", {}, .writtenBy ["W"]⟩]).registry
    let source : Source Unit := .checkedByLease fun _ => .ok ()
    let request : Request := ⟨.get, ⟨"/%FF/b/1".toList, none⟩, [], [], none⟩
    settings.validate.isOk = true ∧ request.negotiate = .ok () ∧ source.acquire () = .ok () ∧
      ∃ application, assemble? settings registry source = some application ∧
        application.passesIdentity request = true ∧
        (∃ binding mounted name, application.binding? request =
            some (binding, [mounted, (name, "1".toList)]) ∧
          binding.operation = .fetchOne ∧ decodedIdentifier? "1".toList = some "1") ∧
        application.meetsLease request () = true ∧
        (application.serve request ⟨0⟩ (.start ())).response.status = 400 ∧
        (application.serve request ⟨0⟩ (.start ())).shared.leases.acquired = 0 := by
  intro settings registry source request
  have reaches : (assemble? settings registry source).bind (fun application =>
      (application.binding? request).map fun reached => (reached.1.operation, reached.2)) =
      some (.fetchOne, [(['t'], "%FF".toList), ("id".toList, "1".toList)]) := by
    decide +kernel
  have answers : (assemble? settings registry source).map (fun application =>
      (application.passesIdentity request, application.meetsLease request (),
        (application.serve request ⟨0⟩ (.start ())).response.status,
        (application.serve request ⟨0⟩ (.start ())).shared.leases.acquired)) =
      some (true, true, 400, 0) := by
    decide +kernel
  obtain ⟨application, assembled, answered⟩ := Option.map_eq_some_iff.mp answers
  rw [assembled, Option.bind_some, Option.map_eq_some_iff] at reaches
  obtain ⟨⟨binding, captures⟩, reached, kind⟩ := reaches
  obtain ⟨operation, rfl⟩ := Prod.mk.inj kind
  simp only [Prod.mk.injEq] at answered
  obtain ⟨passes, meets, status, acquired⟩ := answered
  exact ⟨by decide +kernel, rfl, rfl, application, assembled, passes,
    ⟨binding, _, _, reached, operation, by decide +kernel⟩, meets, status, acquired⟩

end Application

end Sluice.Server
