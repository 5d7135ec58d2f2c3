import Sluice.Proofs.Resource.ItemRequests
import Sluice.Proofs.Resource.Rearrangement
import Sluice.Proofs.Server.MountedRoutes

/-!
# Requests behind the mount

A server answers a request behind its mount as a router of its resources answers the rest of the path,
with the layer that reads the caller around each route if the headers are believed. What browsers and
caches are told comes on top; `Http.Response.Alike` leaves it aside, and each layer of the server keeps
answers alike.

There is one exception, `Settings.Garbles`. The parameters of the mount are decoded together with the
identifier, so a parameter whose own text is not UTF-8 has every request for an item refused, although
the identifier is still the last of the parameters and can be decoded.
-/

namespace Sluice.Http

/-- The fields that tell browsers and caches about an answer. -/
def browserFields : List String :=
  ["vary", "access-control-allow-origin", "access-control-allow-credentials",
    "access-control-expose-headers"]

namespace Response

/-- Answers that differ at most in what browsers and caches are told. -/
structure Alike (first second : Response) : Prop where
  status : first.status = second.status
  body : first.body = second.body
  fields : ∀ name, name ∉ browserFields → first.headers.all name = second.headers.all name

theorem Alike.refl (response : Response) : response.Alike response :=
  ⟨rfl, rfl, fun _ _ => rfl⟩

theorem Alike.trans {first second third : Response} (alike : first.Alike second)
    (onward : second.Alike third) : first.Alike third where
  status := alike.status.trans onward.status
  body := alike.body.trans onward.body
  fields name other := (alike.fields name other).trans (onward.fields name other)

/-- Answers that are alike have the same length. -/
theorem Alike.withLength {first second : Response} (alike : first.Alike second) :
    first.withLength.Alike second.withLength := by
  unfold Response.withLength
  rw [alike.body]
  cases second.body.size? with
  | none => exact alike
  | some size =>
    refine ⟨alike.status, rfl, fun name other => ?_⟩
    have length : "content-length" ∉ browserFields := by decide
    simp only [Headers.all_setIfAbsent, alike.fields name other, alike.fields _ length]

/-- A length that is stated stays. -/
theorem withLength_withLength (response : Response) :
    response.withLength.withLength = response.withLength := by
  have stated : ∀ size, response.body.size? = some size →
      (response.headers.setIfAbsent "content-length" (.ofText (toString size))).has
        "content-length" = true := by
    intro size _
    rw [← Bool.not_eq_false, Headers.has_eq_false_iff, Headers.all_setIfAbsent]
    by_cases bare : response.headers.all "content-length" = [] <;> simp [bare]
  cases sized : response.body.size? with
  | none => simp only [Response.withLength, sized]
  | some size =>
    simp only [Response.withLength, sized]
    rw [Headers.setIfAbsent, if_pos (stated size sized)]

end Response

end Sluice.Http

namespace Sluice.Resource

open Http (browserFields)

variable {σ : Type}

/-- Answers that are alike get the same methods of a route. -/
theorem withAllow_alike {first second : Http.Response} (alike : first.Alike second)
    (bindings : List (Binding σ)) (method : Http.Method) :
    (withAllow bindings method first).Alike (withAllow bindings method second) := by
  unfold withAllow
  split
  · refine ⟨alike.status, alike.body, fun name other => ?_⟩
    have allow : "allow" ∉ browserFields := by decide
    simp only [Http.Headers.all_setIfAbsent, alike.fields name other, alike.fields _ allow]
  · exact alike

/-- It does not matter whether the length is stated before the methods already. -/
theorem withAllow_withLength_alike (bindings : List (Binding σ)) (method : Http.Method)
    (response : Http.Response) :
    (withAllow bindings method response.withLength).withLength.Alike
      (withAllow bindings method response).withLength := by
  unfold withAllow
  split
  · unfold Http.Response.withLength
    cases sized : response.body.size? with
    | none => simp only [sized]; exact .refl _
    | some size =>
      simp only [sized]
      refine ⟨rfl, rfl, fun name _ => ?_⟩
      have apart : "allow" ≠ "content-length" := by decide
      simp only [Http.Headers.all_setIfAbsent, apart, apart.symm, false_and, if_false]
      by_cases length : "content-length" = name
      · subst length
        by_cases bare : response.headers.all "content-length" = [] <;> simp [bare]
      · simp [length]
  · rw [Http.Response.withLength_withLength]
    exact .refl _

theorem forMethod_alike {first second : Http.Response} (alike : first.Alike second)
    (method : Http.Method) : (forMethod method first).Alike (forMethod method second) := by
  unfold forMethod
  split
  · exact ⟨alike.status, rfl, alike.fields⟩
  · exact alike

end Sluice.Resource

namespace Sluice.Resource

variable {σ : Type}

/-! ## The rest of the path -/

/-- A request for another path. -/
def Request.atPath (request : Request) (path : List Char) : Request :=
  { request with uri.path := path }

/-- What a dispatch does with a request does not depend on its path. -/
theorem dispatch_atPath (engine : Engine σ) (binding : Binding σ) (identifier : Option String)
    (request : Request) (path : List Char) (incident : Incident) (shared : Shared σ) :
    dispatch engine binding identifier (request.atPath path) incident shared =
      dispatch engine binding identifier request incident shared := rfl

/-- Parameters are decoded one after another. -/
theorem decodeCaptures_append (own captures : Route.Captures) :
    decodeCaptures (own ++ captures) =
      (decodeCaptures own).bind fun texts => (decodeCaptures captures).map (texts ++ ·) := by
  induction own with
  | nil =>
    rw [List.nil_append, decodeCaptures, Except.bind]
    cases decodeCaptures captures <;> rfl
  | cons capture rest ih =>
    obtain ⟨name, value⟩ := capture
    rw [List.cons_append, decodeCaptures, decodeCaptures, ih]
    cases Text.Utf8.decode? (Text.Percent.decode (Text.Utf8.encodeChars value)) with
    | none => rfl
    | some text =>
      cases decodeCaptures rest with
      | error _ => rfl
      | ok texts => cases decodeCaptures captures <;> rfl

/-- There is a text for every parameter. -/
theorem ne_nil_of_decodeCaptures {captures : Route.Captures} {texts : List String}
    (nonempty : captures ≠ []) (decoded : decodeCaptures captures = .ok texts) : texts ≠ [] := by
  rintro rfl
  cases captures with
  | nil => exact nonempty rfl
  | cons capture rest =>
    obtain ⟨name, value⟩ := capture
    rw [decodeCaptures] at decoded
    split at decoded
    · cases decoded
    · cases onward : decodeCaptures rest <;> rw [onward] at decoded <;> cases decoded

/-- Parameters in front of an identifier do not matter if they can be decoded, and for other operations
not at all. -/
theorem dispatchOn_append (engine : Engine σ) {binding : Binding σ} {own captures : Route.Captures}
    (decodable : binding.operation.targetsItem = true → areDecodable own = true ∧ captures ≠ [])
    (request : Request) (path : List Char) (incident : Incident) (shared : Shared σ) :
    dispatchOn engine binding (own ++ captures) request incident shared =
      dispatchOn engine binding captures (request.atPath path) incident shared := by
  simp only [dispatchOn, dispatch_atPath]
  split
  · next item =>
    obtain ⟨decodes, nonempty⟩ := decodable item
    rw [← isOk_decodeCaptures] at decodes
    rw [decodeCaptures_append]
    cases decodedOwn : decodeCaptures own with
    | error _ =>
      rw [decodedOwn] at decodes
      cases decodes
    | ok front =>
      cases decoded : decodeCaptures captures with
      | error _ => rfl
      | ok texts =>
        have last : (front ++ texts).getLast? = texts.getLast? :=
          List.getLast?_append_of_ne_nil _ (ne_nil_of_decodeCaptures nonempty decoded)
        simp only [Except.bind, Except.map, last]
  · rfl

/-- A parameter in front of an identifier that cannot be decoded has the request refused. -/
theorem dispatchOn_of_undecodable (engine : Engine σ) {binding : Binding σ}
    {own : Route.Captures} (item : binding.operation.targetsItem = true)
    (undecodable : areDecodable own = false) (captures : Route.Captures) (request : Request)
    (incident : Incident) (shared : Shared σ) :
    let exchange := dispatchOn engine binding (own ++ captures) request incident shared
    exchange.response.status = 400 ∧ exchange.shared = shared := by
  rw [← isOk_decodeCaptures] at undecodable
  cases decodedOwn : decodeCaptures own with
  | error name =>
    simp only [dispatchOn, item, if_true, decodeCaptures_append, decodedOwn]
    exact ⟨rfl, rfl⟩
  | ok texts =>
    rw [decodedOwn] at undecodable
    cases undecodable

/-- Whether a route answers requests with a method through a binding of items. -/
def BindsItem (bindings : List (Binding σ)) (method : Http.Method) : Prop :=
  ∃ binding, endpoint bindings method = .bound binding ∧ binding.operation.targetsItem = true

/-- A route answers behind parameters that can be decoded as it does without them. -/
theorem answerOn_append (engine : Engine σ) (cache : CacheRule) {bindings : List (Binding σ)}
    {own captures : Route.Captures} (request : Request)
    (decodable : BindsItem bindings request.method → areDecodable own = true ∧ captures ≠ [])
    (path : List Char) (incident : Incident) (shared : Shared σ) :
    answerOn engine cache bindings (own ++ captures) request incident shared =
      answerOn engine cache bindings captures (request.atPath path) incident shared := by
  have sameMethod : (request.atPath path).method = request.method := rfl
  simp only [answerOn, sameMethod]
  cases reached : endpoint bindings request.method with
  | bound binding =>
    have served := dispatchOn_append engine (fun item => decodable ⟨binding, reached, item⟩) request
      path incident shared
    simp only [served]
  | methods | unbound => rfl

/-- Behind a parameter that cannot be decoded a route refuses requests for items. -/
theorem answerOn_of_undecodable (engine : Engine σ) (cache : CacheRule)
    {bindings : List (Binding σ)} {own : Route.Captures} (request : Request)
    (item : BindsItem bindings request.method) (undecodable : areDecodable own = false)
    (captures : Route.Captures) (incident : Incident) (shared : Shared σ) :
    let exchange := answerOn engine cache bindings (own ++ captures) request incident shared
    exchange.response.status = 400 ∧ exchange.shared = shared := by
  obtain ⟨binding, reached, targetsItem⟩ := item
  obtain ⟨status, same⟩ :=
    dispatchOn_of_undecodable engine targetsItem undecodable captures request incident shared
  simp only [answerOn, reached, CacheRule.status_apply, status, same, and_self]

/-- Exchanges that differ at most in what browsers and caches are told. -/
structure Exchange.Resembles (first second : Exchange σ) : Prop where
  response : first.response.Alike second.response
  shared : first.shared = second.shared
  events : first.events = second.events

end Sluice.Resource

namespace Sluice.Server

open Resource Route

variable {σ : Type}

/-! ## Layers -/

/-- What browsers are told keeps an answer alike. -/
theorem CrossOrigin.told_alike (cross : CrossOrigin) (request : Http.Headers)
    (response : Http.Response) : (cross.told request response).Alike response := by
  refine ⟨rfl, rfl, fun name other => ?_⟩
  simp only [Http.browserFields, List.mem_cons, List.not_mem_nil, or_false, not_or] at other
  obtain ⟨vary, origin, credentials, exposed⟩ := other
  have allowed (headers : Http.Headers) :
      (cross.shared request headers).all name = headers.all name :=
    cross.all_shared_of_ne request headers (Ne.symm origin) (Ne.symm credentials)
  simp only [told, Http.Headers.setText, Http.Headers.all_set, Http.Headers.all_append, allowed,
    if_neg (Ne.symm exposed), if_neg (Ne.symm vary), List.append_nil]

/-- For a client that lists no codings an answer is sent as it is. -/
theorem coded_alike (response : Http.Response) : (coded [] response).Alike response := by
  have identity : CodingChoice.preferred [] = none := rfl
  unfold coded
  split
  · rw [identity]
    refine ⟨rfl, rfl, fun name other => ?_⟩
    have vary : "vary" ≠ name := fun same => other (same ▸ List.mem_cons_self)
    dsimp only
    split
    · rfl
    · rw [Http.Headers.all_append, if_neg vary, List.append_nil]
  · exact .refl _

/-- Serves a request behind the layer that reads the caller, if the headers are believed. -/
def believing (trusts : Bool) (serve : Request → Exchange σ) (request : Request)
    (incident : Incident) (shared : Shared σ) : Exchange σ :=
  if trusts then Application.identified serve request incident shared else serve request

/-- The layer looks at nothing but the headers. -/
theorem believing_atPath (trusts : Bool) {first second : Request → Exchange σ} {request : Request}
    {path : List Char}
    (same : ∀ caller,
      first { request with caller } = second (Request.atPath { request with caller } path))
    (incident : Incident) (shared : Shared σ) :
    believing trusts first request incident shared =
      believing trusts second (request.atPath path) incident shared := by
  have unnamed : first request = second (request.atPath path) := same request.caller
  have sameHeaders : (request.atPath path).headers = request.headers := rfl
  unfold believing Application.identified
  rw [sameHeaders]
  split
  · cases Caller.ofHeaders request.headers with
    | error _ => rfl
    | ok caller? =>
      cases caller? with
      | none => exact unnamed
      | some caller =>
        exact congrArg (Exchange.after [Application.identifiedEvent caller]) (same (some caller))
  · exact unnamed

/-- Behind parameters that can be decoded a route serves as it does without them, with the layer or
without it. -/
theorem believing_answerOn_append (trusts : Bool) (engine : Engine σ) (cache : CacheRule)
    {bindings : List (Binding σ)} {own captures : Captures} {request : Request}
    (decodable : BindsItem bindings request.method → areDecodable own = true ∧ captures ≠ [])
    (path : List Char) (incident : Incident) (shared : Shared σ) :
    believing trusts (fun request =>
        answerOn engine cache bindings (own ++ captures) request incident shared)
        request incident shared =
      believing trusts (fun request =>
        answerOn engine cache bindings captures request incident shared)
        (request.atPath path) incident shared := by
  refine believing_atPath trusts (fun caller => ?_) incident shared
  exact answerOn_append engine cache { request with caller } decodable path incident shared

/-- Headers that cannot be read are refused before anything is served. -/
theorem believing_of_refused {trusts : Bool} {request : Request} {failure : Failure}
    (believed : trusts = true) (refused : Caller.ofHeaders request.headers = .error failure)
    (first second : Request → Exchange σ) (path : List Char) (incident : Incident)
    (shared : Shared σ) :
    believing trusts first request incident shared =
      believing trusts second (request.atPath path) incident shared := by
  have sameHeaders : (request.atPath path).headers = request.headers := rfl
  simp only [believing, Application.identified, believed, if_true, sameHeaders, refused]

/-- Otherwise the request is served for some caller, and the layer only reports who that is. -/
theorem believing_of_passed {trusts : Bool} {request : Request}
    (passed : trusts = true → (Caller.ofHeaders request.headers).isOk = true)
    (serve : Request → Exchange σ) (incident : Incident) (shared : Shared σ) :
    ∃ caller,
      (believing trusts serve request incident shared).response =
          (serve { request with caller }).response ∧
        (believing trusts serve request incident shared).shared =
          (serve { request with caller }).shared := by
  unfold believing
  split
  · next believed =>
    unfold Application.identified
    cases named : Caller.ofHeaders request.headers with
    | error _ =>
      rw [named] at passed
      cases passed believed
    | ok caller? =>
      cases caller? with
      | none => exact ⟨request.caller, rfl, rfl⟩
      | some caller => exact ⟨some caller, rfl, rfl⟩
  · exact ⟨request.caller, rfl, rfl⟩

/-- A router with the layer that reads the caller around its routes and around its answer for other
paths, if the headers are believed. -/
def serveBelieving (trusts : Bool) (router : Router σ) (request : Request) (incident : Incident)
    (shared : Shared σ) : Exchange σ :=
  match router.table.find? request.uri.path with
  | none =>
    let exchange :=
      believing trusts (fun _ => ⟨.empty 404, shared, []⟩) request incident shared
    { exchange with response := exchange.response.withLength }
  | some (bindings, captures) =>
    let serve (request : Request) : Exchange σ :=
      answerOn router.engine router.cache bindings captures request incident shared
    let exchange := believing trusts serve request incident shared
    let response := withAllow bindings request.method exchange.response
    { exchange with response := forMethod request.method response.withLength }

/-- Without the layer this is the router alone. -/
theorem serveBelieving_false (router : Router σ) :
    serveBelieving false router = router.serve := by
  funext request incident shared
  unfold serveBelieving Router.serve believing
  cases router.table.find? request.uri.path <;> rfl

end Sluice.Server

namespace Sluice.Resource.Router.Lists

variable {σ : Type} {router : Router σ} {resources : List (BoundResource σ)} {path : List Char}

/-- What answers requests for items on a route is an item, with its identifier at the end of the path.
-/
theorem exists_of_bindsItem (lists : router.Lists resources)
    (distinct : resources.Pairwise fun first second => first.base ≠ second.base)
    {bindings : List (Binding σ)} {captures : Route.Captures}
    (found : router.table.find? path = some (bindings, captures)) {method : Http.Method}
    (item : BindsItem bindings method) :
    ∃ front name value, captures = [(name, value)] ∧ '/' ∉ value ∧ path = front ++ '/' :: value := by
  obtain ⟨resource, _, ⟨rfl, _⟩ | ⟨value, ⟨split, _, segment⟩, _, caught⟩⟩ :=
    lists.exists_of_find? distinct found
  · obtain ⟨binding, reached, targetsItem⟩ := item
    cases BoundResource.lane_eq_item (mem_of_endpoint reached) targetsItem
  · exact ⟨resource.base, _, value, caught, segment, split⟩

end Sluice.Resource.Router.Lists

namespace Sluice.Server

open Resource Route

variable {σ : Type}

/-- Whether a parameter of the mount keeps a request from being served: its own text cannot be decoded,
the request passes the layer that reads the caller, and it is for an item. -/
structure Settings.Garbles (settings : Settings) (bindings : List (Binding σ)) (request : Request) :
    Prop where
  undecodable : areDecodable settings.mountPattern.ownCaptures = false
  passed : settings.access.trustIdentity = true → (Caller.ofHeaders request.headers).isOk = true
  item : BindsItem bindings request.method

/-- How a server serves a request behind the mount, compared with a router that gets the rest of the
path. -/
structure Rebased (settings : Settings) (application : Application σ) (router : Router σ)
    (bindings : List (Binding σ)) (caught : Captures) (request : Request) (path : List Char)
    (incident : Incident) (shared : Shared σ) : Prop where
  alone : router.table.find? path = some (bindings, caught)
  /-- The parameters of the mount come in front of those of the route. -/
  behind : application.table.find? request.uri.path =
    some (.resource bindings, settings.mountPattern.ownCaptures ++ caught)
  /-- The identifier is the last segment of the path. -/
  identifier : BindsItem bindings request.method → ∃ front name value,
    caught = [(name, value)] ∧ '/' ∉ value ∧ path = front ++ '/' :: value
  transparent : ¬ settings.Garbles bindings request →
    (application.serve request incident shared).Resembles
      (serveBelieving settings.access.trustIdentity router (request.atPath path) incident shared)
  garbled : settings.Garbles bindings request →
    (application.serve request incident shared).response.status = 400 ∧
      (application.serve request incident shared).shared = shared

namespace Application

variable {settings : Settings} {registry : Registry σ} {source : Source σ}
  {application : Application σ} {resources : List (BoundResource σ)} {engine : Engine σ}
  {cache : CacheRule} {router : Router σ}

/-- A server has the rule for caching of its settings and believes headers as they say. -/
theorem rules_of_assemble? (assembled : assemble? settings registry source = some application) :
    application.cache = settings.cache ∧
      application.trustIdentity = settings.access.trustIdentity := by
  simp only [assemble?] at assembled
  split at assembled
  · cases assembled
  · obtain ⟨table, _, rfl⟩ := Option.map_eq_some_iff.mp assembled
    exact ⟨rfl, rfl⟩

/-- The answer of a resource is that of its route behind the layer that reads the caller. -/
theorem resourceAnswer_eq (application : Application σ) (bindings : List (Binding σ))
    (captures : Captures) (request : Request) (incident : Incident) (shared : Shared σ) :
    application.resourceAnswer bindings captures request incident shared =
      believing application.trustIdentity
        (fun request =>
          answerOn application.engine application.cache bindings captures request incident shared)
        request incident shared := rfl

/-- On the route of a resource a server adds to the answer of the resource the methods and the length,
and otherwise only what browsers and caches are told. -/
theorem serve_resembles {request : Request} {bindings : List (Binding σ)} {captures : Captures}
    (found : application.table.find? request.uri.path = some (.resource bindings, captures))
    (notOptions : request.method ≠ .options)
    (uncoded : request.headers.all "accept-encoding" = []) (incident : Incident)
    (shared : Shared σ) :
    let exchange := application.resourceAnswer bindings captures request incident shared
    (application.serve request incident shared).Resembles
      { exchange with
        response := forMethod request.method
          (withAllow bindings request.method exchange.response).withLength } := by
  intro exchange
  have asked : (request.method == Http.Method.options) = false := beq_eq_false_iff_ne.mpr notOptions
  simp only [serve, found, asked, Bool.false_eq_true, if_false, answering, around, uncoded]
  refine ⟨?_, rfl, rfl⟩
  have told := (application.cross.told_alike request.headers _).trans
    (coded_alike exchange.response.withLength)
  have stated := (withAllow_alike told bindings request.method).withLength
  exact forMethod_alike
    (stated.trans (withAllow_withLength_alike bindings request.method exchange.response)) _

section Registered

variable (valid : settings.validate.isOk = true)
  (held : registry.bindings = resources.flatMap BoundResource.bindings)
  (distinct : resources.Pairwise fun first second => first.base ≠ second.base)
  (assembled : assemble? settings registry source = some application)

include valid held distinct assembled

/-- If a server can be assembled, a router can be built of the same resources. -/
theorem exists_router_of_assemble? (engine : Engine σ) (cache : CacheRule) :
    ∃ router, Router.build? registry engine cache = some router := by
  obtain ⟨read, _, _⟩ := (Table.build?_eq_some_iff ..).mp (build?_of_assemble? assembled).1
  rw [← Option.isSome_iff_exists, Router.isSome_build?_iff held distinct]
  intro resource member
  have item := read _ (mem_destinations held distinct member .item _)
  obtain ⟨whole, underMount⟩ := Option.isSome_iff_exists.mp item
  obtain ⟨rest, begins⟩ := resource.exists_stem_eq .item
  have shape : (resource.route .item).toList =
      '/' :: (rest ++ ':' :: resource.template.identifierName.toList) := by
    rw [resource.toList_route_item, begins, List.cons_append]
  obtain ⟨_, pattern, _, alone, _⟩ :=
    Pattern.exists_append_of_parse? (Settings.mount_shape valid) shape underMount
  rw [resource.parse?_route_item] at alone
  split at alone
  · cases alone
  · next unmarked => exact Bool.eq_false_iff.mpr unmarked

/-- What a router finds for the rest of a path settles how the request is served. -/
theorem rebased_of_find?
    (built : Router.build? registry ⟨source, settings.offices, settings.server.contextPath⟩
      settings.cache = some router)
    {request : Request} {path : List Char} {bindings : List (Binding σ)} {caught : Captures}
    (found : router.table.find? path = some (bindings, caught))
    (split : request.uri.path = settings.mount ++ path) (notOptions : request.method ≠ .options)
    (uncoded : request.headers.all "accept-encoding" = []) (incident : Incident)
    (shared : Shared σ) :
    Rebased settings application router bindings caught request path incident shared := by
  have lists := Router.lists_of_build? held distinct built
  have bears := bears_of_assemble? valid held distinct built assembled
  obtain ⟨resource, member, _⟩ := lists.exists_of_find? distinct found
  have isOffer := List.mem_map_of_mem (f := BoundResource.offer) member
  have read := Settings.parseFrom_mount (bears.legible (List.ne_nil_of_mem isOffer)).1
  have behind : application.table.find? request.uri.path =
      some (.resource bindings, settings.mountPattern.ownCaptures ++ caught) := by
    rw [split]
    exact find?_mounted valid held distinct built assembled (Pattern.fills_own read) found
  have item (binds : BindsItem bindings request.method) :=
    lists.exists_of_bindsItem distinct found binds
  obtain ⟨engine, _, _⟩ := parts_of_assemble? assembled
  obtain ⟨cache, trusts⟩ := rules_of_assemble? assembled
  obtain ⟨sameEngine, sameCache⟩ := Router.parts_of_build? built
  have served := serve_resembles behind notOptions uncoded incident shared
  rw [resourceAnswer_eq, engine, cache, trusts] at served
  refine ⟨found, behind, item, fun clean => ?transparent, fun garbles => ?garbled⟩
  case transparent =>
    have samePath : (request.atPath path).uri.path = path := rfl
    rw [serveBelieving, samePath, found, sameEngine, sameCache]
    by_cases passed : settings.access.trustIdentity = true →
        (Caller.ofHeaders request.headers).isOk = true
    · have decodable (binds : BindsItem bindings request.method) :
          areDecodable settings.mountPattern.ownCaptures = true ∧ caught ≠ [] := by
        obtain ⟨_, _, _, rfl, _, _⟩ := item binds
        refine ⟨?_, List.cons_ne_nil _ _⟩
        by_contra undecodable
        exact clean ⟨Bool.eq_false_iff.mpr undecodable, passed, binds⟩
      rw [believing_answerOn_append _ _ _ decodable path] at served
      exact served
    · obtain ⟨believed, unread⟩ := Classical.not_imp.mp passed
      cases named : Caller.ofHeaders request.headers with
      | ok _ => rw [named] at unread; exact absurd rfl unread
      | error failure =>
        rw [believing_of_refused believed named] at served
        exact served
  case garbled =>
    obtain ⟨undecodable, passed, binds⟩ := garbles
    obtain ⟨caller, response, kept⟩ := believing_of_passed passed (fun request =>
      answerOn ⟨source, settings.offices, settings.server.contextPath⟩ settings.cache bindings
        (settings.mountPattern.ownCaptures ++ caught) request incident shared) incident shared
    obtain ⟨status, untouched⟩ := answerOn_of_undecodable
      ⟨source, settings.offices, settings.server.contextPath⟩ settings.cache
      { request with caller } binds undecodable caught incident shared
    constructor
    · rw [served.response.status, status_forMethod, status_withLength, status_withAllow, response,
        status]
    · rw [served.shared, kept, untouched]

end Registered

/-- Whatever settings pass their check and whatever has been offered, a server that is assembled of
them serves each request behind the mount, other than for the methods of a path or with codings, as a
router of the accepted resources serves the rest of the path, unless the mount garbles it. A mount
without a colon garbles nothing. -/
theorem requests_rebased (settings : Settings) (offers : List (Offer σ)) (source : Source σ)
    (valid : settings.validate.isOk = true) {application : Application σ}
    (assembled : assemble? settings (Registration.run offers).registry source = some application) :
    (':' ∉ settings.mount → ∀ (bindings : List (Binding σ)) request,
      ¬ settings.Garbles bindings request) ∧
    ∃ (resources : List (BoundResource σ)) (router : Router σ),
      resources.map BoundResource.offer = (Registration.run offers).accepted ∧
      Router.build? (Registration.run offers).registry
        ⟨source, settings.offices, settings.server.contextPath⟩ settings.cache = some router ∧
      ∀ resource ∈ resources, ∀ (request : Request) (path : List Char) (incident : Incident)
        (shared : Shared σ), resource.Matches path →
        request.uri.path = settings.mount ++ path → request.method ≠ .options →
        request.headers.all "accept-encoding" = [] →
          ∃ bindings caught,
            Rebased settings application router bindings caught request path incident shared := by
  obtain ⟨resources, holds⟩ := Registration.exists_holds_run offers
  obtain ⟨router, built⟩ := exists_router_of_assemble? valid holds.bindings holds.distinct assembled
    ⟨source, settings.offices, settings.server.contextPath⟩ settings.cache
  refine ⟨?plain, resources, router, holds.accepted, built, ?rebased⟩
  case plain =>
    intro uncolored bindings request garbles
    have bears := bears_of_assemble? valid holds.bindings holds.distinct built assembled
    have undecodable := garbles.undecodable
    rw [Settings.mountPattern_of_plain bears.unstarred uncolored, Pattern.ownCaptures_plain]
      at undecodable
    cases undecodable
  case rebased =>
    intro resource member request path incident shared matched split notOptions uncoded
    have lists := Router.lists_of_build? holds.bindings holds.distinct built
    obtain ⟨⟨bindings, caught⟩, found⟩ := Option.isSome_iff_exists.mp
      (lists.isSome_find?_of_matches holds.distinct member matched)
    exact ⟨bindings, caught, rebased_of_find? valid holds.bindings holds.distinct assembled built
      found split notOptions uncoded incident shared⟩

/-- Under a mount with a parameter that can be decoded, a read of an item is served as a router serves
it without the mount. -/
theorem parameter_mount_rebased :
    let settings : Settings := { Settings.standard with server.contextPath := "/:region/spk-data/" }
    let offers : List (Offer Unit) := [⟨"/a/\x7bid\x7d", {}, .writtenBy ["W"]⟩]
    let registry := (Registration.run offers).registry
    let source : Source Unit := .checkedByLease fun _ => .ok ()
    let path := "/a/1".toList
    let request : Request := ⟨.get, ⟨"/:region/spk-data/a/1".toList, none⟩, [], [], none⟩
    settings.validate.isOk = true ∧ request.uri.path = settings.mount ++ path ∧
      request.method ≠ .options ∧ request.headers.all "accept-encoding" = [] ∧
      ∃ application router, assemble? settings registry source = some application ∧
        Router.build? registry ⟨source, settings.offices, settings.server.contextPath⟩
          settings.cache = some router ∧
        (∃ resource : BoundResource Unit, resource.offer ∈ (Registration.run offers).accepted ∧
          resource.Matches path) ∧
        ∀ incident shared, (application.serve request incident shared).Resembles
          (router.serve (request.atPath path) incident shared) := by
  intro settings offers registry source path request
  have valid : settings.validate.isOk = true := by
    simp [settings, Settings.validate, Settings.standard]
    rfl
  have assembles : (assemble? settings registry source).isSome = true := by decide +kernel
  have texts : (Registration.run offers).accepted.map Offer.text = ["/a/\x7bid\x7d"] := by
    decide +kernel
  have split : request.uri.path = settings.mount ++ path := by decide +kernel
  have notOptions : request.method ≠ .options := by decide
  have decodes : areDecodable settings.mountPattern.ownCaptures = true := by decide +kernel
  obtain ⟨application, assembled⟩ := Option.isSome_iff_exists.mp assembles
  obtain ⟨_, resources, router, accepted, built, rebased⟩ :=
    requests_rebased settings offers source valid assembled
  rw [← accepted, List.map_map, List.map_eq_singleton_iff] at texts
  obtain ⟨resource, rfl, text⟩ := texts
  have member : resource ∈ [resource] := List.mem_cons_self
  have base : resource.base = "/a".toList := by
    have written : resource.offer.text = "/a/\x7bid\x7d" := text
    change Template.pathChars (Template.segmentChars resource.offer.text.toList).dropLast = _
    rw [written]
    decide +kernel
  have matched : resource.Matches path := by
    refine (resource.matches_iff path).mpr (.inr ⟨['1'], ?_, by decide, by decide⟩)
    rw [base]
    decide +kernel
  refine ⟨valid, split, notOptions, rfl, application, router, assembled, built,
    ⟨resource, accepted ▸ List.mem_map_of_mem member, matched⟩, fun incident shared => ?_⟩
  obtain ⟨bindings, caught, served⟩ :=
    rebased resource member request path incident shared matched split notOptions rfl
  rw [← serveBelieving_false]
  exact served.transparent fun garbles =>
    Bool.false_ne_true (garbles.undecodable.symm.trans decodes)

/-- The text of a mount is taken for a parameter that cannot be decoded. A router serves a read of an
item with the rest of the path, and the server refuses it. -/
theorem mount_text_refused :
    let settings : Settings := { Settings.standard with server.contextPath := "/:%FF" }
    let echo : Handler Unit :=
      { fetchOne := some fun _ identifier => .pure (.ok (.ofJson 200 (.text identifier))) }
    let registry := (Registration.run [⟨"/b/\x7bid\x7d", echo, .writtenBy ["W"]⟩]).registry
    let source : Source Unit := .checkedByLease fun _ => .ok ()
    let path := "/b/1".toList
    let request : Request := ⟨.get, ⟨"/:%FF/b/1".toList, none⟩, [], [], none⟩
    settings.validate.isOk = true ∧ settings.access.trustIdentity = false ∧
      request.uri.path = settings.mount ++ path ∧ request.headers.all "accept-encoding" = [] ∧
      ((assemble? settings registry source).bind fun application =>
        (Router.build? registry application.engine application.cache).map fun router =>
          ((application.serve request ⟨0⟩ (.start ())).response.status,
            (router.serve (request.atPath path) ⟨0⟩ (.start ())).response.status,
            (router.serve (request.atPath path) ⟨0⟩ (.start ())).response.body)) =
        some (400, 200, .plain "\"1\"") := by
  intro settings echo registry source path request
  have valid : settings.validate.isOk = true := by
    simp [settings, Settings.validate, Settings.standard]
    rfl
  exact ⟨valid, rfl, by decide +kernel, rfl, by decide +kernel⟩

end Application

end Sluice.Server
