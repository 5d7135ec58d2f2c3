import Sluice.Proofs.Resource.Caching
import Sluice.Proofs.Server.Rebasing

/-!
# Answers to requests that fail

Whatever keeps a request from being served is ruled on, and `IsFailureAnswer` says what every client is
to get then. Rulings come from the layer that reads the caller, from the search for a path, from the
decoding of identifiers and from dispatch; all that lies around them keeps such an answer what it is. One
failure is not ruled on: a route refuses a method that is not bound on its own, `LacksMethod`, and the
answer has neither a body nor anything to say about caching.
-/

namespace Sluice.Resource

variable {σ : Type}

/-- The names of the fields that matter for the answer to a failure. -/
def failureFields : List String := ["cache-control", "content-type"]

/-- A response that has the fields and the text of such an answer is one. -/
theorem IsFailureAnswer.of_kept {first second : Http.Response} (answer : IsFailureAnswer first)
    (fields : ∀ name ∈ failureFields, second.headers.all name = first.headers.all name)
    (text : second.body.text = first.body.text) : IsFailureAnswer second where
  caching := (fields _ (by decide)).trans answer.caching
  contentType := (fields _ (by decide)).trans answer.contentType
  body := by
    rw [text]
    exact answer.body

/-- The operations of a registry reply with success. -/
def Registry.Succeeds (registry : Registry σ) : Prop :=
  ∀ binding ∈ registry.bindings, ∀ context identifier request store reply,
    (binding.invocation.act context identifier request store).result = .ok reply →
      reply.status < 400

/-- The reply to a request that has reached a binding is that of its operation. -/
theorem Binding.exists_reply_of_outcome {binding : Binding σ} {engine : Engine σ}
    {captures : Route.Captures} {request : Request} {store : σ} {reply : Reply}
    (replied : binding.outcome engine captures request store = .ok reply) :
    ∃ identifier,
      (binding.invocation.act ⟨engine.office, request.caller⟩ identifier request store).result =
        .ok reply := by
  unfold outcome at replied
  split at replied
  · cases replied
  · split at replied
    · cases replied
    · exact ⟨_, replied⟩

/-- What a route answers through a binding is a success or the answer to a failure. -/
theorem answerOn_of_bound {registry : Registry σ} (succeeds : registry.Succeeds)
    {bindings : List (Binding σ)} (registered : bindings ⊆ registry.bindings) {request : Request}
    {binding : Binding σ} (reached : endpoint bindings request.method = .bound binding)
    (engine : Engine σ) (cache : CacheRule) (captures : Route.Captures) (incident : Incident)
    (shared : Shared σ) :
    let response := (answerOn engine cache bindings captures request incident shared).response
    response.status < 400 ∨ IsFailureAnswer response := by
  simp only [answerOn, reached, response_dispatchOn]
  cases outcome : binding.outcome engine captures request shared.store with
  | ok reply =>
    obtain ⟨identifier, replied⟩ := Binding.exists_reply_of_outcome outcome
    left
    rw [CacheRule.status_apply, responseTo, Reply.status_toResponse]
    exact succeeds binding (registered (mem_of_endpoint reached)) _ _ _ _ reply replied
  | error failure =>
    right
    rw [responseTo, cache.apply_of_status request.method (Ruling.status_ne_ok incident failure)]
    exact (Ruling.of incident failure).isFailureAnswer

end Sluice.Resource

namespace Sluice.Category

open Resource

/-- Replies about categories are successes. -/
theorem succeeds_registry {policy : AccessPolicy} {registry : Registry Database.Session}
    (built : Category.registry policy = .ok registry) : registry.Succeeds :=
  fun _ member context identifier request store reply replied =>
    ((confined_binding built member context identifier request).bare store reply replied).2

end Sluice.Category

namespace Sluice.Server

open Resource Route

variable {σ : Type}

/-! ## Layers -/

/-- The coding of a body keeps its text, and the status. -/
theorem coded_kept (values : List Http.HeaderValue) (response : Http.Response) :
    (coded values response).status = response.status ∧
      (coded values response).body.text = response.body.text := by
  unfold coded
  split
  · cases CodingChoice.preferred values <;> exact ⟨rfl, rfl⟩
  · exact ⟨rfl, rfl⟩

/-- A response without a body is not coded. -/
theorem coded_of_empty (values : List Http.HeaderValue) {response : Http.Response}
    (empty : response.body = .none) : coded values response = response := by
  have uncoded : mayCode response = false := by
    simp [mayCode, empty, Http.Body.none, Http.Body.size?, minCodedBytes]
  simp only [coded, uncoded, Bool.false_eq_true, if_false]

namespace Application

/-- What lies around an answer keeps its status, its text and the fields that neither browsers nor
codings need. -/
theorem around_kept (application : Application σ) (request : Request) (exchange : Exchange σ) :
    let response := (application.around request exchange).response
    response.status = exchange.response.status ∧
      response.body.text = exchange.response.body.text ∧
      ∀ name, name ∉ Http.browserFields → name ∉ codedFields →
        response.headers.all name = exchange.response.headers.all name := by
  intro response
  obtain ⟨status, body, fields⟩ := application.cross.told_alike request.headers
    (coded (request.headers.all "accept-encoding") exchange.response.withLength)
  obtain ⟨sameStatus, sameText⟩ :=
    coded_kept (request.headers.all "accept-encoding") exchange.response.withLength
  refine ⟨?_, ?_, fun name forBrowsers forCodings => ?_⟩
  · exact status.trans (sameStatus.trans (status_withLength _))
  · refine (congrArg Http.Body.text body).trans (sameText.trans ?_)
    rw [body_withLength]
  · have length : "content-length" ≠ name := fun same => forCodings (same ▸ by decide)
    refine (fields name forBrowsers).trans ((all_coded_of_not_mem _ _ forCodings).trans ?_)
    exact all_withLength_of_kept _ (.inl length)

/-- The fields of the answer to a failure are none of these. -/
theorem failureFields_kept : ∀ name ∈ failureFields,
    name ∉ Http.browserFields ∧ name ∉ codedFields ∧ "content-length" ≠ name ∧ "allow" ≠ name := by
  decide

variable {settings : Settings} {registry : Registry σ} {source : Source σ}
  {application : Application σ} {request : Request}

/-- The answer to a failure leaves a server as such, with the methods of a route stated or not. -/
theorem isFailureAnswer_around {exchange : Exchange σ} (answer : IsFailureAnswer exchange.response)
    (bindings : List (Binding σ)) :
    IsFailureAnswer (application.around request exchange).response.withLength ∧
      IsFailureAnswer
        (withAllow bindings request.method
          (application.around request exchange).response).withLength := by
  obtain ⟨_, text, fields⟩ := application.around_kept request exchange
  have around : IsFailureAnswer (application.around request exchange).response := by
    refine answer.of_kept (fun name member => ?_) text
    obtain ⟨forBrowsers, forCodings, _⟩ := failureFields_kept name member
    exact fields name forBrowsers forCodings
  have stated {response : Http.Response} (answer : IsFailureAnswer response) :
      IsFailureAnswer response.withLength := by
    refine answer.of_kept (fun name member => ?_) (by rw [body_withLength])
    exact all_withLength_of_kept response (.inl (failureFields_kept name member).2.2.1)
  refine ⟨stated around, stated (around.of_kept (fun name member => ?_) ?_)⟩
  · exact all_withAllow_of_ne _ _ _ (failureFields_kept name member).2.2.2
  · unfold withAllow
    split <;> rfl

/-- Whether a request that passes the layer that reads the caller is for the path of a resource, with a
method that is not bound there. -/
structure LacksMethod (application : Application σ) (bindings : List (Binding σ)) (request : Request) :
    Prop where
  found : ∃ captures,
    application.table.find? request.uri.path = some (.resource bindings, captures)
  unbound : endpoint bindings request.method = .unbound
  passed : application.trustIdentity = true → (Caller.ofHeaders request.headers).isOk = true

/-- How a server answers a request that fails. -/
structure AnswersFailures (application : Application σ) (request : Request)
    (response : Http.Response) : Prop where
  uniform : 400 ≤ response.status → (∀ bindings, ¬ application.LacksMethod bindings request) →
    IsFailureAnswer response
  /-- A method that is not bound is refused with the methods that are, and with nothing else. -/
  bare : ∀ bindings, application.LacksMethod bindings request →
    response.status = 405 ∧ response.body = .none ∧
      (∀ name ∈ failureFields, response.headers.all name = []) ∧
      response.headers.all "allow" = [.ofText (allowedMethods bindings)]

/-- On the route of a resource, the answer of the resource is passed on, and at last the methods and the
length are stated. -/
theorem serve_of_resource {bindings : List (Binding σ)} {captures : Captures}
    (found : application.table.find? request.uri.path = some (.resource bindings, captures))
    (notOptions : request.method ≠ .options) (incident : Incident) (shared : Shared σ) :
    application.serve request incident shared =
      answering
        (application.around request
          (application.resourceAnswer bindings captures request incident shared))
        fun response =>
          forMethod request.method (withAllow bindings request.method response).withLength := by
  have asked : (request.method == Http.Method.options) = false := beq_eq_false_iff_ne.mpr notOptions
  simp only [serve, found, asked, Bool.false_eq_true, if_false]

/-- On the route of a resource, an answer is stated with the methods and the length. -/
theorem response_of_resource {bindings : List (Binding σ)} {captures : Captures}
    (found : application.table.find? request.uri.path = some (.resource bindings, captures))
    (notOptions : request.method ≠ .options) (notHead : request.method ≠ .head)
    (incident : Incident) (shared : Shared σ) :
    (application.serve request incident shared).response =
      (withAllow bindings request.method (application.around request
        (application.resourceAnswer bindings captures request incident
          shared)).response).withLength := by
  rw [serve_of_resource found notOptions]
  simp only [answering, forMethod, notHead, if_false]

/-- Behind the layer that reads the caller, what a route answers to a method that is bound is a success
or the answer to a failure; and so is what the layer answers itself. -/
theorem resourceAnswer_cases (succeeds : registry.Succeeds)
    (assembled : assemble? settings registry source = some application)
    {bindings : List (Binding σ)} {captures : Captures}
    (found : application.table.find? request.uri.path = some (.resource bindings, captures))
    (notOptions : request.method ≠ .options) (incident : Incident) (shared : Shared σ) :
    let response :=
      (application.resourceAnswer bindings captures request incident shared).response
    application.LacksMethod bindings request ∧ response = .empty 405 ∨
      ¬ application.LacksMethod bindings request ∧
        (response.status < 400 ∨ IsFailureAnswer response) := by
  intro response
  by_cases passed : application.trustIdentity = true →
      (Caller.ofHeaders request.headers).isOk = true
  · obtain ⟨caller, served, _⟩ := believing_of_passed passed (fun request =>
      answerOn application.engine application.cache bindings captures request incident shared)
      incident shared
    have answered : response = (answerOn application.engine application.cache bindings captures
        { request with caller } incident shared).response := served
    cases reached : endpoint bindings request.method with
    | bound binding =>
      refine .inr ⟨fun lacks => ?_, ?_⟩
      · have unbound := lacks.unbound
        rw [reached] at unbound
        cases unbound
      · have sameMethod : endpoint bindings ({ request with caller } : Request).method =
            .bound binding := reached
        rw [answered]
        exact answerOn_of_bound succeeds (mem_bindings_of_find? assembled found) sameMethod ..
    | methods =>
      simp only [endpoint, notOptions, if_false] at reached
      split at reached <;> cases reached
    | unbound =>
      refine .inl ⟨⟨⟨captures, found⟩, reached, passed⟩, ?_⟩
      rw [answered]
      simp only [answerOn, reached]
  · refine .inr ⟨fun lacks => passed lacks.passed, .inr ?_⟩
    obtain ⟨believed, unread⟩ := Classical.not_imp.mp passed
    cases named : Caller.ofHeaders request.headers with
    | ok _ => rw [named] at unread; exact absurd rfl unread
    | error failure =>
      have refused : response = (Ruling.of incident failure).toResponse := by
        simp only [response, resourceAnswer_eq, believing, identified, believed, if_true, named]
      rw [refused]
      exact (Ruling.of incident failure).isFailureAnswer

/-- A method that is not bound is refused with the methods that are and without a body. -/
theorem response_of_lacking {bindings : List (Binding σ)}
    (unbound : endpoint bindings request.method = .unbound) {exchange : Exchange σ}
    (refused : exchange.response = .empty 405) :
    let response := (withAllow bindings request.method
      (application.around request exchange).response).withLength
    response.status = 405 ∧ response.body = .none ∧
      (∀ name ∈ failureFields, response.headers.all name = []) ∧
      response.headers.all "allow" = [.ofText (allowedMethods bindings)] := by
  obtain ⟨status, _, fields⟩ := application.around_kept request exchange
  have body : (application.around request exchange).response.body = .none := by
    have empty : exchange.response.withLength.body = .none := by
      rw [body_withLength, refused]
      rfl
    simp only [around, coded_of_empty _ empty]
    exact empty
  have bare (name : String) (forBrowsers : name ∉ Http.browserFields)
      (forCodings : name ∉ codedFields) :
      (application.around request exchange).response.headers.all name = [] := by
    rw [fields name forBrowsers forCodings, refused]
    rfl
  refine ⟨?_, ?_, fun name member => ?_, ?_⟩
  · rw [status_withLength, status_withAllow, status, refused]
    rfl
  · rw [body_withLength, withAllow, unbound]
    exact body
  · obtain ⟨forBrowsers, forCodings, length, allow⟩ := failureFields_kept name member
    rw [all_withLength_of_kept _ (.inl length), all_withAllow_of_ne _ _ _ allow,
      bare name forBrowsers forCodings]
  · rw [all_withLength_of_kept _ (.inl (by decide)), withAllow, unbound]
    rw [Http.Headers.all_setIfAbsent, if_pos ⟨rfl, bare "allow" (by decide) (by decide)⟩]

/-- The request for the methods of a path does not fail. -/
theorem status_of_options (options : request.method = .options)
    (elsewhere : ∀ captures, application.table.find? request.uri.path ≠ some (.health, captures))
    (incident : Incident) (shared : Shared σ) :
    (application.serve request incident shared).response.status = 200 := by
  have asked : (request.method == Http.Method.options) = true := beq_iff_eq.mpr options
  simp only [serve, asked, if_true]
  split
  · simp only [answering, status_forMethod, status_withLength, status_withAllow]
    rfl
  · next captures isHealth => exact absurd isHealth (elsewhere captures)
  · simp only [answering, status_withLength]
    rfl

/-- So it is answered as said. -/
theorem answersFailures_of_options (options : request.method = .options)
    (elsewhere : ∀ captures, application.table.find? request.uri.path ≠ some (.health, captures))
    (incident : Incident) (shared : Shared σ) :
    application.AnswersFailures request (application.serve request incident shared).response := by
  constructor
  case uniform =>
    intro fails
    rw [status_of_options options elsewhere] at fails
    omega
  case bare =>
    intro bindings lacks
    have unbound := lacks.unbound
    rw [options] at unbound
    cases unbound

/-- A request whose path is not found is answered as said. -/
theorem answersFailures_of_missing (notOptions : request.method ≠ .options)
    (missing : application.table.find? request.uri.path = none) (incident : Incident)
    (shared : Shared σ) :
    application.AnswersFailures request (application.serve request incident shared).response := by
  have asked : (request.method == Http.Method.options) = false := beq_eq_false_iff_ne.mpr notOptions
  constructor
  case uniform =>
    intro _ _
    simp only [serve, missing, asked, Bool.false_eq_true, if_false, answering]
    exact (isFailureAnswer_around (Ruling.isFailureAnswer _) []).1
  case bare =>
    rintro bindings ⟨⟨captures, found⟩, _, _⟩
    rw [missing] at found
    cases found

/-- A request for the path of a resource is answered as said, if the operations reply with success. -/
theorem answersFailures_of_resource (succeeds : registry.Succeeds)
    (assembled : assemble? settings registry source = some application)
    (notOptions : request.method ≠ .options) (notHead : request.method ≠ .head)
    {bindings : List (Binding σ)} {captures : Captures}
    (found : application.table.find? request.uri.path = some (.resource bindings, captures))
    (incident : Incident) (shared : Shared σ) :
    application.AnswersFailures request (application.serve request incident shared).response := by
  have alone {others : List (Binding σ)} (lacks : application.LacksMethod others request) :
      others = bindings := by
    obtain ⟨caught, isResource⟩ := lacks.found
    rw [found] at isResource
    cases isResource
    rfl
  rw [response_of_resource found notOptions notHead]
  rcases resourceAnswer_cases succeeds assembled found notOptions incident shared with
    ⟨lacks, refused⟩ | ⟨lacksNot, answered⟩
  · constructor
    case uniform => exact fun _ lacksNot => absurd lacks (lacksNot bindings)
    case bare =>
      intro others lacksToo
      obtain rfl := alone lacksToo
      exact response_of_lacking lacks.unbound refused
  · constructor
    case uniform =>
      intro fails _
      rcases answered with success | answer
      · rw [status_withLength, status_withAllow, (application.around_kept request _).1] at fails
        omega
      · exact (isFailureAnswer_around answer bindings).2
    case bare =>
      intro others lacks
      obtain rfl := alone lacks
      exact absurd lacks lacksNot

/-- Whatever the settings are and whatever has been registered, if the operations reply with success, a
server that is assembled of them answers each request that fails in one way, wherever it fails, unless
it is for header fields alone or for the health check. The exception are requests that lack a method: a
route refuses these on its own. -/
theorem failures_answered (settings : Settings) (registry : Registry σ) (source : Source σ)
    (succeeds : registry.Succeeds) {application : Application σ}
    (assembled : assemble? settings registry source = some application) (request : Request)
    (notHead : request.method ≠ .head) (elsewhere : request.uri.path ≠ healthPath.toList)
    (incident : Incident) (shared : Shared σ) :
    application.AnswersFailures request (application.serve request incident shared).response := by
  have away (captures : Captures) :
      application.table.find? request.uri.path ≠ some (.health, captures) := fun isHealth =>
    elsewhere ((find?_eq_health_iff assembled _).mp ⟨captures, isHealth⟩)
  by_cases options : request.method = .options
  · exact answersFailures_of_options options away incident shared
  cases found : application.table.find? request.uri.path with
  | none => exact answersFailures_of_missing options found incident shared
  | some entry =>
    obtain ⟨destination, captures⟩ := entry
    cases destination with
    | health => exact absurd found (away captures)
    | resource bindings =>
      exact answersFailures_of_resource succeeds assembled options notHead found incident shared

/-- The categories under the standard settings, with a request for an unknown path and one of a client
that accepts no JSON. -/
theorem category_failures_answered :
    let settings : Settings := .standard
    let unknown : Request := ⟨.get, ⟨"/categories".toList, none⟩, [], [], none⟩
    let refusing : Request := ⟨.delete, ⟨"/cwms-data/location/category/Basin".toList, none⟩,
      [⟨"accept", .ofText "text/xml"⟩], [], none⟩
    ∃ registry application, Category.registry settings.access.policy = .ok registry ∧
      registry.Succeeds ∧ assemble? settings registry Category.source = some application ∧
      ∀ request ∈ [unknown, refusing], request.method ≠ .head ∧
        request.uri.path ≠ healthPath.toList ∧
        ∀ incident shared,
          application.AnswersFailures request
            (application.serve request incident shared).response := by
  intro settings unknown refusing
  have builds : (match Category.registry settings.access.policy with
      | .ok registry => (assemble? settings registry Category.source).isSome
      | .error _ => false) = true := by
    decide +kernel
  split at builds
  · next registry built =>
    obtain ⟨application, assembled⟩ := Option.isSome_iff_exists.mp builds
    have succeeds := Category.succeeds_registry built
    have eligible : ∀ request ∈ [unknown, refusing],
        request.method ≠ .head ∧ request.uri.path ≠ healthPath.toList := by
      decide
    refine ⟨registry, application, built, succeeds, assembled, fun request member => ?_⟩
    obtain ⟨notHead, elsewhere⟩ := eligible request member
    exact ⟨notHead, elsewhere, failures_answered settings registry Category.source succeeds assembled
      request notHead elsewhere⟩
  · cases builds

/-- Someone puts a category instead of creating it. The operations on categories reply with success,
and the answer is neither kept from caches nor has it a body, so it is not one to a failure. -/
theorem put_refused_without_body :
    let settings : Settings := .standard
    let request : Request :=
      ⟨⟨"PUT"⟩, ⟨"/cwms-data/location/category/Basin".toList, none⟩, [], [], none⟩
    ∃ registry application, Category.registry settings.access.policy = .ok registry ∧
      registry.Succeeds ∧ assemble? settings registry Category.source = some application ∧
      request.method ≠ .head ∧ request.uri.path ≠ healthPath.toList ∧
      ∃ response, response =
          (application.serve request ⟨0⟩ (.start (.ofAnswers []))).response ∧
        (response.status, response.body, response.headers.all "cache-control") =
          (405, .none, []) ∧
        ¬ IsFailureAnswer response := by
  intro settings request
  have serves : (match Category.registry settings.access.policy with
      | .ok registry =>
        (assemble? settings registry Category.source).map fun application =>
          let response := (application.serve request ⟨0⟩ (.start (.ofAnswers []))).response
          (response.status, response.body, response.headers.all "cache-control")
      | .error _ => none) = some (405, .none, []) := by
    decide +kernel
  split at serves
  · next registry built =>
    obtain ⟨application, assembled, refused⟩ := Option.map_eq_some_iff.mp serves
    refine ⟨registry, application, built, Category.succeeds_registry built, assembled, by decide,
      by decide, _, rfl, refused, fun answer => ?_⟩
    have unkept := (Prod.mk.inj (Prod.mk.inj refused).2).2
    rw [answer.caching] at unkept
    cases unkept
  · cases serves

end Application

end Sluice.Server
