import Sluice.Proofs.Resource.Denial
import Sluice.Proofs.Resource.Places

/-!
# Requests for items

The order in which requests for items are checked, seen from outside. The identifier in a path is
decoded before anything else is looked at, so one that is not UTF-8 is refused with 400 whatever the
client accepts, whether there is a connection and whoever calls. For all other identifiers the order
is that of dispatch: what is found at the format, the connection and the roles is answered alike
whatever the identifier is, and only a request that passes all three is handed on with it.
-/

namespace Sluice.Resource

variable {σ : Type}

/-- The response to a failure that only the log explains. -/
def incidentResponse (incident : Incident) : Http.Response where
  status := 500
  headers := errorHeaders
  body := .plain (Envelope.ofIncident incident).render

/-- How requests for an operation on an item are answered, by what their paths hold as identifier. -/
structure BoundResource.AnswersItem (resource : BoundResource σ) (engine : Engine σ)
    (cache : CacheRule) (operation : Operation) (value : List Char) (request : Request)
    (incident : Incident) (shared : Shared σ) (exchange : Exchange σ) : Prop where
  /-- An identifier that is not UTF-8 is refused whatever else is wrong with the request. -/
  undecodable : decodedIdentifier? value = none →
    exchange.response.status = 400 ∧ exchange.shared = shared
  /-- A client that does not accept JSON is refused first. -/
  unacceptable : ∀ identifier failure, decodedIdentifier? value = some identifier →
    request.negotiate = .error failure →
      exchange.response = forMethod request.method (Ruling.of incident failure).toResponse.withLength ∧
        exchange.response.status = 406 ∧ exchange.shared = shared
  /-- Where no connection can be leased, the failure of the source is answered. -/
  unavailable : ∀ identifier failure, decodedIdentifier? value = some identifier →
    request.negotiate = .ok () → engine.source.acquire shared.store = .error failure →
      exchange.response = forMethod request.method (Ruling.of incident failure).toResponse.withLength ∧
        (Taxonomy.IsUnexpected failure →
          exchange.response = forMethod request.method (incidentResponse incident).withLength) ∧
        exchange.shared = shared
  /-- A caller without the roles is denied access. -/
  denied : ∀ identifier reason, decodedIdentifier? value = some identifier →
    request.negotiate = .ok () → engine.source.acquire shared.store = .ok () →
    resource.policy.authorize operation (Caller.rolesOf request.caller) = .deny reason →
      exchange.response = forMethod request.method deniedResponse.withLength ∧
        exchange.shared = shared.lease.release
  /-- Only then the identifier counts. -/
  admitted : ∀ identifier, decodedIdentifier? value = some identifier →
    request.negotiate = .ok () → engine.source.acquire shared.store = .ok () →
    resource.policy.authorize operation (Caller.rolesOf request.caller) = .allow →
      exchange =
        (dispatch engine (resource.binding operation) (some identifier) request incident shared).sent
          cache request.method

/-- The default of caching applies to nothing but success. -/
theorem CacheRule.apply_of_status (cache : CacheRule) (method : Http.Method)
    {response : Http.Response} (status : response.status ≠ 200) :
    cache.apply method response = response :=
  apply_of_not_applies (by simp [CacheRule.applies, status]) cache

/-- No failure is answered with success. -/
theorem Ruling.status_ne_ok (incident : Incident) (failure : Failure) :
    (of incident failure).status ≠ 200 := by
  rcases of_cases incident failure with ⟨status, _⟩ | ⟨status, _⟩ | ⟨⟨least, _⟩, _⟩ <;> omega

/-- The answer to a failure leaves a router with its length. -/
theorem Exchange.sent_ruling (cache : CacheRule) (method : Http.Method) (incident : Incident)
    (failure : Failure) (shared : Shared σ) (events : List Log.Event) :
    (⟨(Ruling.of incident failure).toResponse, shared, events⟩ : Exchange σ).sent cache method =
      ⟨forMethod method (Ruling.of incident failure).toResponse.withLength, shared, events⟩ := by
  have status : (Ruling.of incident failure).toResponse.status ≠ 200 :=
    Ruling.status_ne_ok incident failure
  simp only [sent, cache.apply_of_status method status]

/-- A client that does not accept JSON is answered with 406. -/
theorem Request.status_of_negotiate {request : Request} {failure : Failure}
    (refused : request.negotiate = .error failure) (incident : Incident) :
    (Ruling.of incident failure).toResponse.status = 406 := by
  simp only [negotiate] at refused
  split at refused
  · cases refused
  · obtain rfl := Except.error.inj refused
    rfl

/-- An unexpected failure is answered with nothing but its incident. -/
theorem Ruling.toResponse_of_unexpected {failure : Failure}
    (unexpected : Taxonomy.IsUnexpected failure) (incident : Incident) :
    (of incident failure).toResponse = incidentResponse incident := by
  have unclaimed := (Taxonomy.find?_eq_none_iff failure).mpr unexpected
  simp only [toResponse_eq, of, unclaimed]
  rfl

namespace Router

variable {router : Router σ} {request : Request} {resource : BoundResource σ} {lane : Lane}
  {captures : Route.Captures}

/-- A request whose method is that of an operation on the route of its path, header fields alone
being read like the whole, is served through the binding of that operation. -/
theorem serve_of_operation
    (found : router.table.find? request.uri.path = some (resource.bindingsOn lane, captures))
    {operation : Operation} (sameMethod : boundMethod request.method = operation.method)
    (bound : lane.operations.find? (·.method == operation.method) = some operation)
    (incident : Incident) (shared : Shared σ) :
    router.serve request incident shared =
      (dispatchOn router.engine (resource.binding operation) captures request incident shared).sent
        router.cache request.method := by
  have first : (resource.bindingsOn lane).find? (·.method == boundMethod request.method) =
      some (resource.binding operation) := by
    rw [sameMethod, BoundResource.bindingsOn, List.find?_map]
    exact congrArg (Option.map resource.binding) bound
  have notOptions : request.method ≠ .options := by
    intro options
    have differs : boundMethod .options ≠ operation.method := by cases operation <;> decide
    exact differs (options ▸ sameMethod)
  have reached : endpoint (resource.bindingsOn lane) request.method =
      .bound (resource.binding operation) := by
    simp only [endpoint, notOptions, if_false, first]
  exact serve_of_reached found reached incident shared

end Router

/-- The checks of dispatch in front of the identifier come in order, and each that fails is answered
alike for all identifiers. -/
theorem BoundResource.answersItem_sent (resource : BoundResource σ) (value : List Char)
    {operation : Operation} (item : operation.targetsItem = true) (engine : Engine σ)
    (cache : CacheRule) (request : Request) (incident : Incident) (shared : Shared σ) :
    resource.AnswersItem engine cache operation value request incident shared
      ((dispatchOn engine (resource.binding operation)
        [(resource.template.identifierName.toList, value)] request incident shared).sent cache
          request.method) := by
  have decoded {identifier : String} (isDecoded : decodedIdentifier? value = some identifier) :
      dispatchOn engine (resource.binding operation)
          [(resource.template.identifierName.toList, value)] request incident shared =
        dispatch engine (resource.binding operation) (some identifier) request incident shared := by
    simp only [decodedIdentifier?] at isDecoded
    simp only [dispatchOn, operation_binding, item, if_true, decodeCaptures, isDecoded]
    rfl
  constructor
  case undecodable =>
    intro undecoded
    simp only [decodedIdentifier?] at undecoded
    simp only [dispatchOn, operation_binding, item, if_true, decodeCaptures, undecoded,
      Exchange.sent_ruling, status_forMethod, status_withLength, and_true]
    rfl
  case unacceptable =>
    intro identifier failure isDecoded refused
    have status := request.status_of_negotiate refused incident
    rw [decoded isDecoded]
    simp only [dispatch, refused, Exchange.failed, Exchange.sent_ruling, status_forMethod,
      status_withLength, status, and_self]
  case unavailable =>
    intro identifier failure isDecoded accepts unavailable
    rw [decoded isDecoded]
    simp only [dispatch, accepts, unavailable, Exchange.failed, Exchange.sent_ruling, true_and,
      and_true]
    intro unexpected
    rw [Ruling.toResponse_of_unexpected unexpected]
  case denied =>
    intro identifier reason isDecoded accepts available isDenied
    have denied : Run.IsDenied ⟨resource.binding operation, some identifier, request, incident, shared⟩
        engine := ⟨accepts, available, reason, isDenied⟩
    have exchanged : dispatch engine (resource.binding operation) (some identifier) request incident
        shared = ⟨(Ruling.of incident (.forbidden "missing role")).toResponse, shared.lease.release, _⟩ :=
      denied.exchange_eq
    rw [decoded isDecoded, exchanged, Exchange.sent_ruling, toResponse_forbidden]
    exact ⟨rfl, rfl⟩
  case admitted =>
    intro identifier isDecoded _ _ _
    rw [decoded isDecoded]

/-- The operations on items are found by their methods. -/
theorem Lane.find?_item {operation : Operation} (item : operation.targetsItem = true) :
    Lane.item.operations.find? (·.method == operation.method) = some operation := by
  cases operation <;> first | rfl | cases item

namespace Registration

/-- Whatever has been offered, a router of the accepted resources answers requests for operations on
items in this order: the identifier is decoded, and behind that come format, connection and access
before anything depends on what the identifier is. -/
theorem item_requests_answered (offers : List (Offer σ)) (engine : Engine σ) (cache : CacheRule)
    {router : Router σ} (built : Router.build? (run offers).registry engine cache = some router) :
    ∃ resources : List (BoundResource σ),
      resources.map BoundResource.offer = (run offers).accepted ∧
      ∀ (resource : BoundResource σ) (value : List Char) (operation : Operation) (request : Request)
        (incident : Incident) (shared : Shared σ),
        Place.Leads resources request.uri.path (.item resource value) →
        operation.targetsItem = true → boundMethod request.method = operation.method →
          resource.AnswersItem engine cache operation value request incident shared
            (router.serve request incident shared) := by
  obtain ⟨resources, holds⟩ := exists_holds_run offers
  have lists : router.Lists resources := fun _ =>
    Router.mem_table_iff holds.bindings holds.distinct built
  obtain ⟨table, _, rfl⟩ := Option.map_eq_some_iff.mp built
  refine ⟨resources, holds.accepted, fun resource value operation request incident shared leads item
    sameMethod => ?_⟩
  cases leads with
  | item member named free =>
    have found := lists.find?_item holds.distinct member named free
    rw [Router.serve_of_operation found sameMethod (Lane.find?_item item)]
    exact resource.answersItem_sent value item ..

/-- The deletion of an item is answered in this order. -/
theorem item_deletion_answered :
    let offers : List (Offer Unit) := [⟨"/a/\x7bx\x7d", {}, .writtenBy ["W"]⟩]
    let engine : Engine Unit := ⟨.checkedByLease fun _ => .ok (), .derived, "/spk-data"⟩
    let request : Request := ⟨.delete, ⟨"/a/%FF".toList, none⟩, [], [], none⟩
    ∃ router, Router.build? (run offers).registry engine .standard = some router ∧
      ∃ resources : List (BoundResource Unit),
        resources.map BoundResource.offer = (run offers).accepted ∧
        ∃ resource, Place.Leads resources request.uri.path (.item resource "%FF".toList) ∧
          Operation.delete.targetsItem = true ∧
          boundMethod request.method = Operation.delete.method ∧
          resource.AnswersItem engine .standard .delete "%FF".toList request ⟨0⟩ (.start ())
            (router.serve request ⟨0⟩ (.start ())) := by
  intro offers engine request
  have builds : (Router.build? (run offers).registry engine .standard).isSome = true := by
    decide +kernel
  obtain ⟨router, built⟩ := Option.isSome_iff_exists.mp builds
  obtain ⟨resources, accepted, answers⟩ := item_requests_answered offers engine .standard built
  have texts : (run offers).accepted.map (·.text) = ["/a/\x7bx\x7d"] := by decide +kernel
  rw [← accepted, List.map_map] at texts
  obtain ⟨resource, rfl, text⟩ := List.map_eq_singleton_iff.mp texts
  have base : resource.base = "/a".toList := by
    have validated : (Template.validate "/a/\x7bx\x7d").toOption.map Template.base =
        some "/a".toList := by decide +kernel
    have checked := resource.checked
    rw [show resource.template.text = "/a/\x7bx\x7d" from text] at checked
    rw [checked] at validated
    exact Option.some.inj validated
  have leads : Place.Leads [resource] request.uri.path (.item resource "%FF".toList) := by
    refine .item List.mem_cons_self ?_ fun other member => ?_
    · rw [BoundResource.IsItem, base]
      decide +kernel
    · rw [List.mem_singleton.mp member, BoundResource.IsCollection, base]
      decide +kernel
  have item : Operation.delete.targetsItem = true := rfl
  have sameMethod : boundMethod request.method = Operation.delete.method := by decide
  exact ⟨router, built, [resource], accepted, resource, leads, item, sameMethod,
    answers resource _ _ request ⟨0⟩ (.start ()) leads item sameMethod⟩

/-- Nobody asks for the deletion of an item with an identifier that is not UTF-8. The request has
nothing wrong with its format, there is a connection, and the policy denies access; the answer is
that for a bad request all the same, while any other identifier gets that for a denied one. -/
theorem undecodable_identifier_not_denied :
    let policy : AccessPolicy := .writtenBy ["W"]
    let engine : Engine Unit := ⟨.checkedByLease fun _ => .ok (), .derived, "/spk-data"⟩
    let asking (path : String) : Request := ⟨.delete, ⟨path.toList, none⟩, [], [], none⟩
    ∃ router, Router.build? (run [⟨"/a/\x7bx\x7d", {}, policy⟩]).registry engine .standard = some router ∧
      (asking "/a/%FF").negotiate = .ok () ∧ engine.source.acquire () = .ok () ∧
      policy.authorize .delete (Caller.rolesOf (asking "/a/%FF").caller) = .deny "missing role" ∧
      (router.serve (asking "/a/%FF") ⟨0⟩ (.start ())).response.status = 400 ∧
      (router.serve (asking "/a/b") ⟨0⟩ (.start ())).response.status = 403 := by
  intro policy engine asking
  have statuses : (Router.build? (run [⟨"/a/\x7bx\x7d", {}, policy⟩]).registry engine .standard).map
      (fun router => ["/a/%FF", "/a/b"].map fun path =>
        (router.serve (asking path) ⟨0⟩ (.start ())).response.status) = some [400, 403] := by
    decide +kernel
  obtain ⟨router, built, answered⟩ := Option.map_eq_some_iff.mp statuses
  simp only [List.map_cons, List.map_nil, List.cons.injEq, and_true] at answered
  exact ⟨router, built, rfl, rfl, by decide +kernel, answered⟩

end Registration

end Sluice.Resource
