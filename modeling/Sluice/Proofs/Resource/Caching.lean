import Sluice.Proofs.Resource.CacheGrammar
import Sluice.Proofs.Resource.OfferedMethods
import Sluice.Proofs.Resource.Stages

/-!
# Caching of answers

Three have a say in how long the answer to a request may be kept: the reply of an operation, the ruling
on a failure, and the rule of the router. A request that has reached a binding has an outcome,
`Binding.outcome`, which is a reply or a failure, and its answer is made of that alone. A failure is
never kept. A reply is kept as it says itself; if it says nothing, the rule counts for a read that was
answered with exactly 200. Everything else that a router answers does not depend on the rule.
-/

namespace Sluice.Resource

variable {σ : Type}

/-! ## Outcomes -/

/-- The identifier among the parameters of a path, for operations on items. -/
def Binding.captured (binding : Binding σ) (captures : Route.Captures) :
    Except Failure (Option String) :=
  if binding.operation.targetsItem then
    match decodeCaptures captures with
    | .ok texts => .ok texts.getLast?
    | .error name => .error (undecodable binding name)
  else .ok none

/-- What becomes of a request that has reached a binding: the reply of the operation, or the first
failure on the way to it or its own. -/
def Binding.outcome (binding : Binding σ) (engine : Engine σ) (captures : Route.Captures)
    (request : Request) (store : σ) : Except Failure Reply :=
  match binding.captured captures with
  | .error failure => .error failure
  | .ok identifier =>
    match Stage.firstFault? engine binding identifier request store with
    | some (_, failure) => .error failure
    | none =>
      (binding.invocation.act ⟨engine.office, request.caller⟩ (identifier.getD "") request
        store).result

/-- The response to an outcome: that to the reply, or that of the ruling on the failure. -/
def responseTo (incident : Incident) : Except Failure Reply → Http.Response
  | .ok reply => reply.toResponse
  | .error failure => (Ruling.of incident failure).toResponse

/-- A dispatch answers what becomes of the request. -/
theorem response_dispatchOn (engine : Engine σ) (binding : Binding σ) (captures : Route.Captures)
    (request : Request) (incident : Incident) (shared : Shared σ) :
    (dispatchOn engine binding captures request incident shared).response =
      responseTo incident (binding.outcome engine captures request shared.store) := by
  have dispatched (identifier : Option String) :
      (dispatch engine binding identifier request incident shared).response =
        responseTo incident
          (match Stage.firstFault? engine binding identifier request shared.store with
          | some (_, failure) => .error failure
          | none =>
            (binding.invocation.act ⟨engine.office, request.caller⟩ (identifier.getD "") request
              shared.store).result) := by
    have settled := dispatch_settled engine binding identifier request incident shared
    cases found : Stage.firstFault? engine binding identifier request shared.store with
    | some fault =>
      rw [found] at settled
      exact settled.response
    | none =>
      rw [found] at settled
      rw [settled.response]
      dsimp only
      cases (binding.invocation.act ⟨engine.office, request.caller⟩ (identifier.getD "") request
        shared.store).result <;> rfl
  unfold dispatchOn Binding.outcome Binding.captured
  split
  · cases decodeCaptures captures with
    | ok texts => exact dispatched texts.getLast?
    | error name => rfl
  · exact dispatched none

/-! ## The rule -/

namespace CacheRule

/-- The default says something where it applies. -/
theorem all_headerName_apply (cache : CacheRule) (method : Http.Method) (response : Http.Response) :
    (cache.apply method response).headers.all headerName =
      if applies method response then [.ofText cache.headerText]
      else response.headers.all headerName := by
  unfold apply
  split
  · rw [Http.Headers.all_set, if_pos rfl, headerValue_eq]
  · rfl

end CacheRule

/-! ## Answers -/

/-- The answer to a reply. -/
structure CacheRule.AnswersReply (cache : CacheRule) (method : Http.Method) (reply : Reply)
    (response : Http.Response) : Prop where
  status : response.status = reply.status
  /-- What the reply says counts; otherwise the rule does, for a read with exactly 200. -/
  caching : response.headers.all headerName =
    if reply.headers.has headerName then reply.headers.all headerName
    else if (method = .get ∨ method = .head) ∧ reply.status = 200 then
      [.ofText ("max-age=" ++ toString cache.maxAge)]
    else []
  /-- The type and the length of the body are stated if the reply does not, and no other field. -/
  fields : ∀ name, name ≠ headerName →
    (reply.headers.has name = true ∨ name ∉ ["content-type", "content-length"]) →
      response.headers.all name = reply.headers.all name
  body : response.body =
    if method = .head then .none
    else (reply.body.map fun json => Http.Body.plain json.render).getD .none

/-- The answer of a ruling on a failure. -/
structure Ruling.Answers (ruling : Ruling) (method : Http.Method) (response : Http.Response) :
    Prop where
  status : response.status = ruling.status
  caching : response.headers.all CacheRule.headerName = [.ofText "no-store"]
  fields : ∀ name, name ≠ "content-length" →
    response.headers.all name = ruling.toResponse.headers.all name
  body : response.body = if method = .head then .none else .plain ruling.envelope.render

/-- How the answers of a router may be kept. -/
structure Router.Caches (router : Router σ) (request : Request) (incident : Incident)
    (shared : Shared σ) (exchange : Exchange σ) : Prop where
  replied : ∀ binding captures reply, router.binding? request = some (binding, captures) →
    binding.outcome router.engine captures request shared.store = .ok reply →
      router.cache.AnswersReply request.method reply exchange.response
  failed : ∀ binding captures failure, router.binding? request = some (binding, captures) →
    binding.outcome router.engine captures request shared.store = .error failure →
      (Ruling.of incident failure).Answers request.method exchange.response
  /-- What the router answers itself says nothing about caching. -/
  unreached : router.binding? request = none →
    exchange.response.headers.all CacheRule.headerName = []
  /-- Any other answer than 200, any of the router itself and any to a write would be the same with
  another rule. -/
  unruled : (exchange.response.status ≠ 200 ∨ router.binding? request = none ∨
      ∃ binding captures, router.binding? request = some (binding, captures) ∧
        binding.operation.isRead = false) →
    ∀ rule, ({ router with cache := rule } : Router σ).serve request incident shared = exchange

/-- A response that leaves a router has the fields that it had, and at most its length besides. -/
theorem all_forMethod_withLength (method : Http.Method) (response : Http.Response) {name : String}
    (kept : "content-length" ≠ name ∨ response.headers.all name ≠ []) :
    (forMethod method response.withLength).headers.all name = response.headers.all name := by
  rw [headers_forMethod, all_withLength_of_kept response kept]

/-- A response has its body unless only header fields were asked for. -/
theorem body_forMethod (method : Http.Method) (response : Http.Response) :
    (forMethod method response).body = if method = .head then .none else response.body := by
  unfold forMethod
  split <;> rfl

/-- A reply is answered as said. -/
theorem CacheRule.answersReply (cache : CacheRule) (method : Http.Method) (reply : Reply) :
    cache.AnswersReply method reply
      (forMethod method (cache.apply method reply.toResponse).withLength) := by
  have own : reply.toResponse.headers.all headerName = reply.headers.all headerName :=
    reply.all_toResponse_of_kept (.inr (by decide))
  have applied : applies method reply.toResponse = true ↔
      ((method = .get ∨ method = .head) ∧ reply.status = 200) ∧
        reply.headers.has headerName = false := by
    rw [applies, Reply.status_toResponse, Bool.and_eq_true, Bool.not_eq_true',
      Http.Headers.has_eq_false_iff, Http.Headers.has_eq_false_iff, own]
    simp
  constructor
  case status => rw [status_forMethod, status_withLength, status_apply, Reply.status_toResponse]
  case caching =>
    rw [all_forMethod_withLength _ _ (.inl (by decide)), all_headerName_apply, own]
    by_cases stated : reply.headers.has headerName = true
    · rw [if_pos stated, if_neg]
      exact fun applies => Bool.false_ne_true ((applied.mp applies).2.symm.trans stated)
    · rw [Bool.not_eq_true] at stated
      have bare := (Http.Headers.has_eq_false_iff ..).mp stated
      rw [stated, bare, if_neg Bool.false_ne_true]
      exact if_congr (applied.trans (and_iff_left stated)) rfl rfl
  case fields =>
    intro name other kept
    -- A length that the reply states is kept; any other name than that of the length anyway.
    have typed : reply.headers.has name = true ∨ "content-type" ≠ name :=
      kept.imp_right fun absent same => absent (same ▸ List.mem_cons_self)
    have same : (cache.apply method reply.toResponse).headers.all name = reply.headers.all name :=
      (cache.all_apply_of_ne method _ other.symm).trans (reply.all_toResponse_of_kept typed)
    refine (all_forMethod_withLength _ _ ?_).trans same
    rw [same, ne_eq (reply.headers.all name), ← Http.Headers.has_eq_false_iff, Bool.not_eq_false]
    refine kept.symm.imp_left fun absent length => absent ?_
    exact length ▸ List.mem_cons_of_mem _ List.mem_cons_self
  case body =>
    rw [body_forMethod, body_withLength, body_apply]
    unfold Reply.toResponse
    cases reply.body <;> rfl

/-- A ruling is answered as said. -/
theorem Ruling.answers_of (incident : Incident) (failure : Failure) (cache : CacheRule)
    (method : Http.Method) :
    (of incident failure).Answers method
      (forMethod method (cache.apply method (of incident failure).toResponse).withLength) := by
  have status : (of incident failure).toResponse.status ≠ 200 := status_ne_ok incident failure
  rw [cache.apply_of_status method status]
  constructor
  case status => rw [status_forMethod, status_withLength]; rfl
  case caching =>
    have never : errorHeaders.all CacheRule.headerName = [.ofText "no-store"] := by decide
    rw [all_forMethod_withLength _ _ (.inl (by decide)), toResponse_eq]
    exact never
  case fields =>
    intro name other
    exact all_forMethod_withLength _ _ (.inl other.symm)
  case body =>
    rw [body_forMethod, body_withLength]
    rfl

namespace Router

variable {router : Router σ} {request : Request}

/-- What a request reaches is a binding on the route of its path. -/
theorem exists_route_of_binding? {binding : Binding σ} {captures : Route.Captures}
    (bound : router.binding? request = some (binding, captures)) :
    ∃ bindings, router.table.find? request.uri.path = some (bindings, captures) ∧
      endpoint bindings request.method = .bound binding := by
  unfold binding? at bound
  split at bound
  · cases bound
  · next bindings caught found =>
    split at bound
    · next reached =>
      cases bound
      exact ⟨bindings, found, reached⟩
    · cases bound
    · cases bound

/-- Where the default applies to nothing that a binding answers, the rule does not matter. -/
theorem serve_withRule (incident : Incident) (shared : Shared σ)
    (unapplied : ∀ binding captures, router.binding? request = some (binding, captures) →
      CacheRule.applies request.method
        (dispatchOn router.engine binding captures request incident shared).response = false)
    (rule : CacheRule) :
    ({ router with cache := rule } : Router σ).serve request incident shared =
      router.serve request incident shared := by
  unfold serve
  cases found : router.table.find? request.uri.path with
  | none => rfl
  | some entry =>
    obtain ⟨bindings, captures⟩ := entry
    simp only [answerOn]
    cases reached : endpoint bindings request.method with
    | bound binding =>
      have plain := unapplied binding captures ((binding?_eq_some_iff found binding).mpr reached)
      simp only [CacheRule.apply_of_not_applies plain]
    | methods | unbound => rfl

/-- A router of which the writes have methods of their own keeps its answers as said. -/
theorem caches_of_writes (incident : Incident) (shared : Shared σ)
    (writes : ∀ binding captures, router.binding? request = some (binding, captures) →
      binding.operation.isRead = false → request.method ≠ .get ∧ request.method ≠ .head) :
    router.Caches request incident shared (router.serve request incident shared) := by
  have served {binding : Binding σ} {captures : Route.Captures}
      (bound : router.binding? request = some (binding, captures)) :
      (router.serve request incident shared).response =
        forMethod request.method (router.cache.apply request.method (responseTo incident
          (binding.outcome router.engine captures request shared.store))).withLength := by
    obtain ⟨bindings, found, reached⟩ := exists_route_of_binding? bound
    rw [serve_of_reached found reached, Exchange.sent, response_dispatchOn]
  constructor
  case replied =>
    intro binding captures reply bound replied
    rw [served bound, replied]
    exact router.cache.answersReply request.method reply
  case failed =>
    intro binding captures failure bound failed
    rw [served bound, failed]
    exact Ruling.answers_of incident failure router.cache request.method
  case unreached =>
    intro unbound
    cases found : router.table.find? request.uri.path with
    | none =>
      simp only [serve, found]
      rfl
    | some entry =>
      obtain ⟨bindings, captures⟩ := entry
      by_cases options : request.method = .options
      · rw [serve_of_options found options]
        simp [Http.Headers.all, CacheRule.headerName]
      · rw [serve_of_unreached found (endpoint_eq_unbound_of_binding? found options unbound)]
        simp [Http.Headers.all, CacheRule.headerName]
  case unruled =>
    intro apart rule
    refine serve_withRule incident shared (fun binding captures bound => ?_) rule
    rcases apart with status | unbound | ⟨other, caught, isOther, write⟩
    · rw [served bound, status_forMethod, status_withLength, CacheRule.status_apply,
        ← response_dispatchOn] at status
      simp [CacheRule.applies, status]
    · rw [unbound] at bound
      cases bound
    · rw [bound] at isOther
      cases isOther
      obtain ⟨notGet, notHead⟩ := writes binding captures bound write
      simp [CacheRule.applies, notGet, notHead]

/-- The binding that a request reaches in a router of resources has an operation with the method of the
request, header fields alone being read like the whole. -/
theorem Lists.method_of_binding? {resources : List (BoundResource σ)} (lists : router.Lists resources)
    {binding : Binding σ} {captures : Route.Captures}
    (bound : router.binding? request = some (binding, captures)) :
    binding.operation.method = boundMethod request.method := by
  obtain ⟨bindings, found, reached⟩ := exists_route_of_binding? bound
  have apart := lists.areApart_of_find? found
  obtain ⟨member, named⟩ :=
    (apart.endpoint_eq_bound_iff (ne_options_of_bound reached) binding).mp reached
  exact (apart.method binding member).symm.trans named

end Router

namespace Registration

/-- Whatever has been offered, a router of the accepted resources answers each request with what may be
known about keeping the answer: a failure is never kept, a reply as it says, and only a read that was
answered with exactly 200 and says nothing for as long as the rule of the router allows. -/
theorem routed_answers_kept (offers : List (Offer σ)) (engine : Engine σ) (cache : CacheRule)
    {router : Router σ} (built : Router.build? (run offers).registry engine cache = some router) :
    router.engine = engine ∧ router.cache = cache ∧
      ∀ (request : Request) (incident : Incident) (shared : Shared σ),
        router.Caches request incident shared (router.serve request incident shared) := by
  obtain ⟨resources, holds⟩ := exists_holds_run offers
  have lists := Router.lists_of_build? holds.bindings holds.distinct built
  obtain ⟨table, _, rfl⟩ := Option.map_eq_some_iff.mp built
  refine ⟨rfl, rfl, fun request incident shared => ?_⟩
  refine Router.caches_of_writes incident shared fun binding captures bound write => ?_
  have named := lists.method_of_binding? bound
  have notGet : boundMethod request.method ≠ .get := named ▸ Operation.method_ne_get write
  constructor
  · intro get
    rw [get] at notGet
    exact notGet rfl
  · intro head
    rw [head] at notGet
    exact notGet rfl

/-- A request for the header fields of a collection reaches an operation that replies with 200 and says
nothing about caching. -/
theorem header_read_caches :
    let listing : Handler Unit := { fetchAll := some fun _ _ => .pure (.ok (.ofJson 200 .null)) }
    let offers : List (Offer Unit) := [⟨"/a/\x7bx\x7d", listing, .writtenBy ["W"]⟩]
    let engine : Engine Unit := ⟨.checkedByLease fun _ => .ok (), .derived, ""⟩
    let request : Request := ⟨.head, ⟨"/a".toList, none⟩, [], [], none⟩
    ∃ router, Router.build? (run offers).registry engine .standard = some router ∧
      (router.binding? request).map (fun (binding, captures) =>
        (binding.outcome engine captures request ()).toOption.map fun reply =>
          (reply.status, reply.headers)) = some (some (200, [])) ∧
      router.engine = engine ∧ router.cache = .standard ∧
      ∀ (request : Request) (incident : Incident) (shared : Shared Unit),
        router.Caches request incident shared (router.serve request incident shared) := by
  intro listing offers engine request
  have replies : ((Router.build? (run offers).registry engine .standard).map fun router =>
      (router.binding? request).map fun (binding, captures) =>
        (binding.outcome engine captures request ()).toOption.map fun reply =>
          (reply.status, reply.headers)) = some (some (some (200, []))) := by
    decide +kernel
  obtain ⟨router, built, reply⟩ := Option.map_eq_some_iff.mp replies
  exact ⟨router, built, reply, routed_answers_kept offers engine .standard built⟩

end Registration

end Sluice.Resource
