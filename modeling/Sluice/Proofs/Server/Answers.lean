import Sluice.Proofs.Resource.Rulings
import Sluice.Proofs.Resource.Stages
import Sluice.Proofs.Server.Leases

/-!
# Where answers come from

A request to a server has one of two outcomes: no operation is called, and then the data stay as they
are unless they are looked at for a health check; or the bound operation is called once, for the office
of the engine, and then the data are as it left them. All that lies around an operation adds and
removes header fields with names of its own, `serverFields`. A field of another name stands in an
answer only if a reply brought it, or if it is told to browsers.
-/

namespace Sluice.Resource

variable {σ : Type}

/-- The names of the header fields that are added to answers and removed from them whatever operations
reply, those for browsers aside. -/
def serverFields : List String :=
  ["content-type", "cache-control", "allow", "content-length", "content-encoding", "accept-ranges",
    "vary"]

theorem ne_of_foreign {name field : String} (foreign : name ∉ serverFields)
    (isServer : field ∈ serverFields) : field ≠ name :=
  fun same => foreign (same ▸ isServer)

/-- An exchange in which no operation was called: the answer has no fields but those of the server. -/
structure Exchange.IsPlain (store : σ) (exchange : Exchange σ) : Prop where
  store : exchange.shared.store = store
  fields : ∀ name, name ∉ serverFields → exchange.response.headers.all name = []

/-- An exchange in which an action was taken once: the answer has the fields of its reply, if it
replied, beside those of the server. -/
structure Exchange.IsActed (action : Action σ) (before : σ) (exchange : Exchange σ) : Prop where
  store : exchange.shared.store = (action before).store
  fields : ∀ name, name ∉ serverFields → exchange.response.headers.all name =
    match (action before).result with
    | .ok reply => reply.headers.all name
    | .error _ => []

/-! ## Fields of single answers -/

/-- Rulings have no fields but those of the server. -/
theorem Ruling.all_toResponse (ruling : Ruling) {name : String} (foreign : name ∉ serverFields) :
    ruling.toResponse.headers.all name = [] := by
  have typed := ne_of_foreign foreign (by decide : "content-type" ∈ serverFields)
  have cached := ne_of_foreign foreign (by decide : "cache-control" ∈ serverFields)
  rw [Ruling.toResponse_eq]
  simp [errorHeaders, Http.Headers.all, typed, cached]

/-- The response to a reply has the fields of the reply. -/
theorem Reply.all_toResponse (reply : Reply) {name : String} (foreign : name ∉ serverFields) :
    reply.toResponse.headers.all name = reply.headers.all name :=
  reply.all_toResponse_of_kept (.inr (ne_of_foreign foreign (by decide)))

/-- The default of caching touches no other field. -/
theorem CacheRule.all_apply (cache : CacheRule) (method : Http.Method) (response : Http.Response)
    {name : String} (foreign : name ∉ serverFields) :
    (cache.apply method response).headers.all name = response.headers.all name :=
  cache.all_apply_of_ne method response (ne_of_foreign foreign (by decide))

/-- Stating the length touches no other field. -/
theorem all_withLength (response : Http.Response) {name : String} (foreign : name ∉ serverFields) :
    response.withLength.headers.all name = response.headers.all name :=
  all_withLength_of_kept response (.inl (ne_of_foreign foreign (by decide)))

/-- Stating the methods of a route touches no other field. -/
theorem all_withAllow_of_ne (bindings : List (Binding σ)) (method : Http.Method)
    (response : Http.Response) {name : String} (other : "allow" ≠ name) :
    (withAllow bindings method response).headers.all name = response.headers.all name := by
  unfold withAllow
  split
  · exact Http.Headers.all_setIfAbsent_of_ne other _ _
  · rfl

/-- Stating the methods of a route touches no field but those of the server. -/
theorem all_withAllow (bindings : List (Binding σ)) (method : Http.Method)
    (response : Http.Response) {name : String} (foreign : name ∉ serverFields) :
    (withAllow bindings method response).headers.all name = response.headers.all name :=
  all_withAllow_of_ne bindings method response (ne_of_foreign foreign (by decide))

/-- The kind of an exchange does not depend on the fields of the server. -/
theorem Exchange.IsPlain.answering {store : σ} {exchange : Exchange σ} (plain : exchange.IsPlain store)
    {response : Http.Response}
    (kept : ∀ name, name ∉ serverFields →
      response.headers.all name = exchange.response.headers.all name) :
    ({ exchange with response } : Exchange σ).IsPlain store where
  store := plain.store
  fields name foreign := (kept name foreign).trans (plain.fields name foreign)

theorem Exchange.IsActed.answering {action : Action σ} {before : σ} {exchange : Exchange σ}
    (acted : exchange.IsActed action before) {response : Http.Response}
    (kept : ∀ name, name ∉ serverFields →
      response.headers.all name = exchange.response.headers.all name) :
    ({ exchange with response } : Exchange σ).IsActed action before where
  store := acted.store
  fields name foreign := (kept name foreign).trans (acted.fields name foreign)

/-! ## Through a binding -/

/-- A dispatch calls the bound operation or none. -/
theorem dispatch_isPlain_or_isActed (engine : Engine σ) (binding : Binding σ)
    (identifier : Option String) (request : Request) (incident : Incident) (shared : Shared σ) :
    let exchange := dispatch engine binding identifier request incident shared
    exchange.IsPlain shared.store ∨
      exchange.IsActed (binding.invocation.act ⟨engine.office, request.caller⟩
        (identifier.getD "") request) shared.store := by
  intro exchange
  have settled := dispatch_settled engine binding identifier request incident shared
  cases found : Stage.firstFault? engine binding identifier request shared.store with
  | some fault =>
    obtain ⟨stage, failure⟩ := fault
    rw [found] at settled
    refine .inl ⟨settled.store, fun name foreign => ?_⟩
    rw [settled.response]
    exact Ruling.all_toResponse _ foreign
  | none =>
    rw [found] at settled
    refine .inr ⟨settled.store, fun name foreign => ?_⟩
    rw [settled.response]
    cases (binding.invocation.act ⟨engine.office, request.caller⟩ (identifier.getD "") request
        shared.store).result with
    | ok reply => exact reply.all_toResponse foreign
    | error failure => exact Ruling.all_toResponse _ foreign

/-- A request that has reached a binding calls its operation or none. -/
theorem dispatchOn_isPlain_or_isActed (engine : Engine σ) (binding : Binding σ)
    (captures : Route.Captures) (request : Request) (incident : Incident) (shared : Shared σ) :
    let exchange := dispatchOn engine binding captures request incident shared
    exchange.IsPlain shared.store ∨
      ∃ identifier, exchange.IsActed (binding.invocation.act ⟨engine.office, request.caller⟩
        identifier request) shared.store := by
  intro exchange
  have dispatched (identifier : Option String) :
      (dispatch engine binding identifier request incident shared).IsPlain shared.store ∨
        ∃ identifier', (dispatch engine binding identifier request incident shared).IsActed
          (binding.invocation.act ⟨engine.office, request.caller⟩ identifier' request)
          shared.store := by
    rcases dispatch_isPlain_or_isActed engine binding identifier request incident shared with
      plain | acted
    · exact .inl plain
    · exact .inr ⟨_, acted⟩
  simp only [exchange, dispatchOn]
  split
  · cases decodeCaptures captures with
    | ok texts => exact dispatched texts.getLast?
    | error name => exact .inl ⟨rfl, fun _ foreign => Ruling.all_toResponse _ foreign⟩
  · exact dispatched none

/-- A route answers through the binding of the method of the request or without any operation. -/
theorem answerOn_isPlain_or_isActed (engine : Engine σ) (cache : CacheRule)
    (bindings : List (Binding σ)) (captures : Route.Captures) (request : Request)
    (incident : Incident) (shared : Shared σ) :
    let exchange := answerOn engine cache bindings captures request incident shared
    exchange.IsPlain shared.store ∨
      ∃ binding identifier, endpoint bindings request.method = .bound binding ∧
        exchange.IsActed (binding.invocation.act ⟨engine.office, request.caller⟩ identifier
          request) shared.store := by
  intro exchange
  simp only [exchange, answerOn]
  cases reached : endpoint bindings request.method with
  | bound binding =>
    have kept (name : String) (foreign : name ∉ serverFields) :=
      cache.all_apply request.method
        (dispatchOn engine binding captures request incident shared).response foreign
    rcases dispatchOn_isPlain_or_isActed engine binding captures request incident shared with
      plain | ⟨identifier, acted⟩
    · exact .inl (plain.answering kept)
    · exact .inr ⟨binding, identifier, rfl, acted.answering kept⟩
  | methods =>
    refine .inl ⟨rfl, fun name foreign => ?_⟩
    have allow := ne_of_foreign foreign (by decide : "allow" ∈ serverFields)
    simp only [Http.Headers.setText, Http.Headers.all_set, if_neg allow]
    rfl
  | unbound => exact .inl ⟨rfl, fun _ _ => rfl⟩

/-- What an operation does with a request does not depend on the caller that the request carries, but
on the one in its context. -/
theorem Invocation.act_caller (invocation : Invocation σ) (context : Context) (identifier : String)
    (request : Request) (caller : Option Caller) :
    invocation.act context identifier { request with caller } =
      invocation.act context identifier request := by
  cases invocation <;> rfl

end Sluice.Resource

namespace Sluice.Server

open Resource

variable {σ : Type}

/-- The names of the header fields that the coding of a body adds or removes. -/
def codedFields : List String :=
  ["vary", "content-length", "content-encoding", "accept-ranges"]

/-- The coding of a body touches no other field. -/
theorem all_coded_of_not_mem (values : List Http.HeaderValue) (response : Http.Response)
    {name : String} (other : name ∉ codedFields) :
    (coded values response).headers.all name = response.headers.all name := by
  simp only [codedFields, List.mem_cons, List.not_mem_nil, or_false, not_or] at other
  obtain ⟨vary, length, encoding, ranges⟩ := other
  have varied : (if (response.headers.all "vary").any namesCodings then response.headers
      else response.headers.append "vary" (.ofText "accept-encoding")).all name =
      response.headers.all name := by
    split
    · rfl
    · rw [Http.Headers.all_append, if_neg (Ne.symm vary), List.append_nil]
  unfold coded
  split
  · cases CodingChoice.preferred values with
    | none => exact varied
    | some coding =>
      simp only [Http.Headers.setText, Http.Headers.all_set, if_neg (Ne.symm encoding),
        Http.Headers.all_remove, if_neg (Ne.symm length), if_neg (Ne.symm ranges)]
      exact varied
  · rfl

/-- The coding of a body touches no field but those of the server. -/
theorem all_coded (values : List Http.HeaderValue) (response : Http.Response) {name : String}
    (foreign : name ∉ serverFields) :
    (coded values response).headers.all name = response.headers.all name := by
  have among : ∀ field ∈ codedFields, field ∈ serverFields := by decide
  exact all_coded_of_not_mem values response fun isCoded => foreign (among name isCoded)

namespace Application

/-- What an assembled server is made of. -/
theorem parts_of_assemble? {settings : Settings} {registry : Registry σ} {source : Source σ}
    {application : Application σ}
    (assembled : assemble? settings registry source = some application) :
    application.engine = ⟨source, settings.offices, settings.server.contextPath⟩ ∧
      application.cross = .ofSettings settings.origins ∧ application.cross.isUsable = true := by
  simp only [assemble?] at assembled
  split at assembled
  · cases assembled
  · next usable =>
    obtain ⟨table, _, rfl⟩ := Option.map_eq_some_iff.mp assembled
    simp only [Bool.or_eq_true, Bool.not_eq_true', not_or, Bool.not_eq_false] at usable
    exact ⟨rfl, rfl, usable.2⟩

/-- The bindings on the routes of an assembled server are those of its registry. -/
theorem mem_bindings_of_find? {settings : Settings} {registry : Registry σ} {source : Source σ}
    {application : Application σ}
    (assembled : assemble? settings registry source = some application) {path : List Char}
    {bindings : List (Binding σ)} {captures : Route.Captures}
    (found : application.table.find? path = some (.resource bindings, captures)) :
    bindings ⊆ registry.bindings := by
  obtain ⟨_, rows, _⟩ :=
    (Route.Table.build?_eq_some_iff ..).mp (build?_of_assemble? assembled).1
  obtain ⟨pattern, member, _⟩ := Route.Table.exists_row_of_find? found
  rw [rows, List.mem_map] at member
  obtain ⟨entry, isEntry, row⟩ := member
  obtain ⟨_, isResource⟩ := Prod.mk.inj row
  simp only [destinations, List.mem_append, List.mem_map, List.mem_singleton] at isEntry
  rcases isEntry with ⟨⟨route, held⟩, underMount, rfl⟩ | rfl
  · cases isResource
    simp only [Registry.routesUnder, List.mem_map, Prod.mk.injEq] at underMount
    obtain ⟨_, _, _, rfl⟩ := underMount
    exact List.filter_subset_self _
  · cases isResource

/-- A request is for the binding that the route of its path has for its method. -/
theorem exists_route_of_binding? {application : Application σ} {request : Request}
    {binding : Binding σ} {captures : Route.Captures}
    (bound : application.binding? request = some (binding, captures)) :
    ∃ bindings,
      application.table.find? request.uri.path = some (.resource bindings, captures) ∧
        endpoint bindings request.method = .bound binding := by
  unfold binding? at bound
  cases found : application.table.find? request.uri.path with
  | none =>
    rw [found] at bound
    cases bound
  | some entry =>
    obtain ⟨destination, held⟩ := entry
    rw [found] at bound
    cases destination with
    | health => cases bound
    | resource bindings =>
      dsimp only at bound
      cases reached : endpoint bindings request.method with
      | bound other =>
        rw [reached] at bound
        cases bound
        exact ⟨bindings, rfl, reached⟩
      | methods | unbound =>
        rw [reached] at bound
        cases bound

/-- A request is for a binding of the registry. -/
theorem mem_of_binding? {settings : Settings} {registry : Registry σ} {source : Source σ}
    {application : Application σ}
    (assembled : assemble? settings registry source = some application) {request : Request}
    {binding : Binding σ} {captures : Route.Captures}
    (bound : application.binding? request = some (binding, captures)) :
    binding ∈ registry.bindings := by
  obtain ⟨bindings, found, reached⟩ := exists_route_of_binding? bound
  exact mem_bindings_of_find? assembled found (mem_of_endpoint reached)

/-- The answer to a request, before the coding of its body and what browsers are told. -/
def answer (application : Application σ) (request : Request) (incident : Incident)
    (shared : Shared σ) : Exchange σ :=
  match application.table.find? request.uri.path with
  | some (.resource bindings, captures) =>
    application.resourceAnswer bindings captures request incident shared
  | some (.health, _) => application.healthAnswer request.method shared
  | none => missingAnswer incident shared

/-- At last the methods of the path and the length are stated, which touches no other field. -/
theorem serve_eq_answering (application : Application σ) (request : Request) (incident : Incident)
    (shared : Shared σ) :
    ∃ last : Http.Response → Http.Response,
      (∀ name, name ∉ serverFields →
        ∀ response, (last response).headers.all name = response.headers.all name) ∧
      application.serve request incident shared =
        answering
          (if request.method = .options then
            ⟨application.cross.preflight request.headers, shared, []⟩
          else application.around request (application.answer request incident shared)) last := by
  unfold serve answer
  simp only [beq_iff_eq]
  cases application.table.find? request.uri.path with
  | none => exact ⟨_, fun name foreign response => all_withLength response foreign, rfl⟩
  | some entry =>
    obtain ⟨destination, captures⟩ := entry
    cases destination with
    | resource bindings =>
      refine ⟨_, fun name foreign response => ?_, rfl⟩
      rw [headers_forMethod, all_withLength _ foreign, all_withAllow _ _ _ foreign]
    | health =>
      refine ⟨_, fun name foreign response => ?_, rfl⟩
      have allow := ne_of_foreign foreign (by decide : "allow" ∈ serverFields)
      rw [headers_forMethod, all_withLength _ foreign]
      split
      · rfl
      · exact Http.Headers.all_setIfAbsent_of_ne allow _ _

/-- A browser's question is not passed on; what any other request does, its answer does. -/
theorem shared_serve (application : Application σ) (request : Request) (incident : Incident)
    (shared : Shared σ) :
    (application.serve request incident shared).shared =
      if request.method = .options then shared
      else (application.answer request incident shared).shared := by
  obtain ⟨last, _, served⟩ := application.serve_eq_answering request incident shared
  rw [served]
  split <;> rfl

/-- A field that is not the server's stands in an answer as browsers are told. -/
theorem all_serve (application : Application σ) (request : Request) (incident : Incident)
    (shared : Shared σ) {name : String} (foreign : name ∉ serverFields) :
    (application.serve request incident shared).response.headers.all name =
      if request.method = .options then
        (application.cross.preflight request.headers).headers.all name
      else
        (application.cross.told request.headers
          (coded (request.headers.all "accept-encoding")
            (application.answer request incident shared).response.withLength)).headers.all name := by
  obtain ⟨last, kept, served⟩ := application.serve_eq_answering request incident shared
  rw [served]
  refine (kept name foreign _).trans ?_
  split <;> rfl

/-- Behind the layer that reads the caller, a route answers as it does without that layer, for some
caller. -/
theorem resourceAnswer_isPlain_or_isActed (application : Application σ)
    (bindings : List (Binding σ)) (captures : Route.Captures) (request : Request)
    (incident : Incident) (shared : Shared σ) :
    let exchange := application.resourceAnswer bindings captures request incident shared
    exchange.IsPlain shared.store ∨
      ∃ binding caller identifier, endpoint bindings request.method = .bound binding ∧
        exchange.IsActed (binding.invocation.act ⟨application.engine.office, caller⟩ identifier
          request) shared.store := by
  have served (caller : Option Caller) :
      let exchange := answerOn application.engine application.cache bindings captures
        { request with caller } incident shared
      exchange.IsPlain shared.store ∨
        ∃ binding caller identifier, endpoint bindings request.method = .bound binding ∧
          exchange.IsActed (binding.invocation.act ⟨application.engine.office, caller⟩ identifier
            request) shared.store := by
    rcases answerOn_isPlain_or_isActed application.engine application.cache bindings captures
        { request with caller } incident shared with plain | ⟨binding, identifier, reached, acted⟩
    · exact .inl plain
    · rw [Invocation.act_caller] at acted
      exact .inr ⟨binding, caller, identifier, reached, acted⟩
  simp only [resourceAnswer]
  split
  · unfold identified
    cases Caller.ofHeaders request.headers with
    | error failure => exact .inl ⟨rfl, fun _ foreign => Ruling.all_toResponse _ foreign⟩
    | ok caller? =>
      cases caller? with
      | none => exact served request.caller
      | some caller =>
        -- What was reported earlier is no part of either kind.
        rcases served (some caller) with plain | ⟨binding, other, identifier, reached, acted⟩
        · exact .inl ⟨plain.store, plain.fields⟩
        · exact .inr ⟨binding, other, identifier, reached, acted.store, acted.fields⟩
  · exact served request.caller

/-- A health check calls no operation, though it may look at the data. -/
theorem healthAnswer_isPlain (application : Application σ) (method : Http.Method)
    (shared : Shared σ) :
    let exchange := application.healthAnswer method shared
    exchange.IsPlain shared.store ∨
      exchange.IsPlain (application.engine.source.check shared).2.store := by
  have typed (status : Nat) (text name : String) (foreign : name ∉ serverFields) :
      (Http.Response.json status text).headers.all name = [] := by
    have type := ne_of_foreign foreign (by decide : "content-type" ∈ serverFields)
    simp [Http.Response.json, Http.Headers.all, type]
  simp only [healthAnswer]
  split
  · cases checked : application.engine.source.check shared with
    | mk outcome after =>
      cases outcome with
      | ok _ => exact .inr ⟨rfl, typed _ _⟩
      | error failure => exact .inr ⟨rfl, typed _ _⟩
  · exact .inl ⟨rfl, fun _ _ => rfl⟩

/-- A request for a binding calls its operation once or none. -/
theorem answer_of_bound {application : Application σ} {request : Request} {binding : Binding σ}
    {captures : Route.Captures} (bound : application.binding? request = some (binding, captures))
    (incident : Incident) (shared : Shared σ) :
    let exchange := application.answer request incident shared
    exchange.IsPlain shared.store ∨
      ∃ caller identifier, exchange.IsActed (binding.invocation.act
        ⟨application.engine.office, caller⟩ identifier request) shared.store := by
  obtain ⟨bindings, found, reached⟩ := exists_route_of_binding? bound
  simp only [answer, found]
  rcases application.resourceAnswer_isPlain_or_isActed bindings captures request incident shared
    with plain | ⟨other, caller, identifier, reachedOther, acted⟩
  · exact .inl plain
  · rw [reached] at reachedOther
    cases reachedOther
    exact .inr ⟨caller, identifier, acted⟩

/-- A request for no binding calls no operation; a health check may look at the data. -/
theorem answer_of_unbound {application : Application σ} {request : Request}
    (unbound : application.binding? request = none) (incident : Incident) (shared : Shared σ) :
    let exchange := application.answer request incident shared
    exchange.IsPlain shared.store ∨
      exchange.IsPlain (application.engine.source.check shared).2.store := by
  simp only [answer]
  unfold binding? at unbound
  cases found : application.table.find? request.uri.path with
  | none => exact .inl ⟨rfl, fun _ foreign => Ruling.all_toResponse _ foreign⟩
  | some entry =>
    obtain ⟨destination, captures⟩ := entry
    rw [found] at unbound
    cases destination with
    | resource bindings =>
      rcases application.resourceAnswer_isPlain_or_isActed bindings captures request incident shared
        with plain | ⟨binding, caller, identifier, reached, acted⟩
      · exact .inl plain
      · simp only [reached] at unbound
        cases unbound
    | health => exact application.healthAnswer_isPlain request.method shared

/-- What becomes of the data while a request for a binding is served: nothing, or what the bound
operation does with them. -/
theorem store_serve_of_bound {application : Application σ} {request : Request}
    {binding : Binding σ} {captures : Route.Captures}
    (bound : application.binding? request = some (binding, captures)) (incident : Incident)
    (shared : Shared σ) :
    (application.serve request incident shared).shared.store = shared.store ∨
      ∃ caller identifier, (application.serve request incident shared).shared.store =
        (binding.invocation.act ⟨application.engine.office, caller⟩ identifier request
          shared.store).store := by
  rw [shared_serve]
  split
  · exact .inl rfl
  · rcases answer_of_bound bound incident shared with plain | ⟨caller, identifier, acted⟩
    · exact .inl plain.store
    · exact .inr ⟨caller, identifier, acted.store⟩

/-- What becomes of the data while any other request is served. -/
theorem store_serve_of_unbound {application : Application σ} {request : Request}
    (unbound : application.binding? request = none) (incident : Incident) (shared : Shared σ) :
    (application.serve request incident shared).shared.store = shared.store ∨
      (application.serve request incident shared).shared.store =
        (application.engine.source.check shared).2.store := by
  rw [shared_serve]
  split
  · exact .inl rfl
  · rcases answer_of_unbound unbound incident shared with plain | plain
    · exact .inl plain.store
    · exact .inr plain.store

end Application

end Sluice.Server
