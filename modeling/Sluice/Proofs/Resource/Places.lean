import Sluice.Proofs.Resource.ReplyFields
import Sluice.Proofs.Resource.Routes

/-!
# Places of paths

Where a path leads among resources, said without a router: to a collection if it is the path of one,
with or without a separator at its end; otherwise to an item if one more segment stands behind the
path of a collection; otherwise nowhere. Every path leads to exactly one place
(`Place.existsUnique_leads`), and the router of the resources answers each request as the place of
its path does.
-/

namespace Sluice.Resource

variable {σ : Type}

/-- What a path may lead to. -/
inductive Place (σ : Type) where
  | collection (resource : BoundResource σ)
  /-- An item, with the text of its identifier as it stands in the path. -/
  | item (resource : BoundResource σ) (value : List Char)
  | nowhere

namespace BoundResource

/-- Whether a path is that of the collection, a separator at its end aside. -/
def IsCollection (resource : BoundResource σ) (path : List Char) : Prop :=
  path = resource.base ∨ path = resource.base ++ ['/']

/-- Whether a path is that of the collection with one more segment. -/
def IsItem (resource : BoundResource σ) (value path : List Char) : Prop :=
  path = resource.base ++ '/' :: value ∧ value ≠ [] ∧ '/' ∉ value

/-- The collection of a path is at one place. -/
theorem base_eq_of_isCollection {first second : BoundResource σ} {path : List Char}
    (isFirst : first.IsCollection path) (isSecond : second.IsCollection path) :
    first.base = second.base := by
  rcases isFirst with rfl | rfl
  · rcases isSecond with same | ends
    · exact same
    · exact absurd ends (first.base_ne_append_separator _)
  · rcases isSecond with ends | same
    · exact absurd ends.symm (second.base_ne_append_separator _)
    · exact List.append_cancel_right same

/-- The last separator of a path is where the collection of an item ends. -/
theorem eq_of_isItem {first second : BoundResource σ} {path value other : List Char}
    (isFirst : first.IsItem value path) (isSecond : second.IsItem other path) :
    first.base = second.base ∧ value = other := by
  obtain ⟨rfl, _, segment⟩ := isFirst
  obtain ⟨same, _, otherSegment⟩ := isSecond
  exact Text.last_separator_unique segment otherSegment same

end BoundResource

namespace Place

/-- The place to which a path leads among resources. -/
inductive Leads (resources : List (BoundResource σ)) (path : List Char) : Place σ → Prop where
  | collection {resource : BoundResource σ} (member : resource ∈ resources)
      (named : resource.IsCollection path) : Leads resources path (.collection resource)
  | item {resource : BoundResource σ} {value : List Char} (member : resource ∈ resources)
      (named : resource.IsItem value path)
      (free : ∀ other ∈ resources, ¬ other.IsCollection path) :
      Leads resources path (.item resource value)
  | nowhere (free : ∀ other ∈ resources, ¬ other.IsCollection path)
      (unnamed : ∀ other ∈ resources, ∀ value, ¬ other.IsItem value path) :
      Leads resources path .nowhere

/-- With collections that differ, every path leads to exactly one place. -/
theorem existsUnique_leads {resources : List (BoundResource σ)}
    (distinct : resources.Pairwise fun first second => first.base ≠ second.base)
    (path : List Char) : ∃! place, Leads resources path place := by
  have unique {place other : Place σ} (leads : Leads resources path place)
      (leadsOther : Leads resources path other) : other = place := by
    cases leads with
    | collection member named =>
      cases leadsOther with
      | collection otherMember otherNamed =>
        obtain rfl := BoundResource.eq_of_base_eq distinct member otherMember
          (BoundResource.base_eq_of_isCollection named otherNamed)
        rfl
      | item _ _ free | nowhere free _ => exact absurd named (free _ member)
    | item member named free =>
      cases leadsOther with
      | collection otherMember otherNamed => exact absurd otherNamed (free _ otherMember)
      | item otherMember otherNamed _ =>
        obtain ⟨bases, rfl⟩ := BoundResource.eq_of_isItem named otherNamed
        obtain rfl := BoundResource.eq_of_base_eq distinct member otherMember bases
        rfl
      | nowhere _ unnamed => exact absurd named (unnamed _ member _)
    | nowhere free unnamed =>
      cases leadsOther with
      | collection otherMember otherNamed => exact absurd otherNamed (free _ otherMember)
      | item otherMember otherNamed _ => exact absurd otherNamed (unnamed _ otherMember _)
      | nowhere _ _ => rfl
  by_cases isCollection : ∃ resource ∈ resources, resource.IsCollection path
  · obtain ⟨resource, member, named⟩ := isCollection
    exact ⟨_, .collection member named, fun _ => unique (.collection member named)⟩
  · have free : ∀ other ∈ resources, ¬ other.IsCollection path := fun other member named =>
      isCollection ⟨other, member, named⟩
    by_cases isItem : ∃ resource ∈ resources, ∃ value, resource.IsItem value path
    · obtain ⟨resource, member, value, named⟩ := isItem
      exact ⟨_, .item member named free, fun _ => unique (.item member named free)⟩
    · have unnamed : ∀ other ∈ resources, ∀ value, ¬ other.IsItem value path :=
        fun other member value named => isItem ⟨other, member, value, named⟩
      exact ⟨_, .nowhere free unnamed, fun _ => unique (.nowhere free unnamed)⟩

end Place

/-! ## Searching the table -/

/-- The table of a router has a row for each route of the resources, and no other. -/
def Router.Lists (router : Router σ) (resources : List (BoundResource σ)) : Prop :=
  ∀ row, row ∈ router.table ↔ ∃ resource ∈ resources, ∃ lane,
    row = (resource.pattern lane, resource.bindingsOn lane)

/-- So it is with every router that has been built of the resources. -/
theorem Router.lists_of_build? {registry : Registry σ} {resources : List (BoundResource σ)}
    (held : registry.bindings = resources.flatMap BoundResource.bindings)
    (distinct : resources.Pairwise fun first second => first.base ≠ second.base)
    {engine : Engine σ} {cache : CacheRule} {router : Router σ}
    (built : build? registry engine cache = some router) : router.Lists resources :=
  fun _ => mem_table_iff held distinct built

namespace BoundResource

/-- The pattern of an item matches the paths of items. -/
theorem match?_item (resource : BoundResource σ) (path : List Char) (captures : Route.Captures) :
    (resource.pattern .item).match? path = some captures ↔
      ∃ value, resource.IsItem value path ∧
        captures = [(resource.template.identifierName.toList, value)] := by
  simp only [pattern, Route.Pattern.match?_openEnded, IsItem, List.append_assoc,
    List.singleton_append, and_assoc]

/-- The other patterns match the path of the collection. -/
theorem isCollection_of_match? {resource : BoundResource σ} {lane : Lane} {path : List Char}
    {captures : Route.Captures} (plain : lane ≠ .item)
    (matched : (resource.pattern lane).match? path = some captures) :
    resource.IsCollection path := by
  cases lane with
  | collection => exact .inl ((Route.Pattern.match?_plain ..).mp matched).1
  | trailing => exact .inr ((Route.Pattern.match?_plain ..).mp matched).1
  | item => exact absurd rfl plain

/-- The path of a collection is the pattern of one of its two routes, and these have the same
bindings. -/
theorem exists_lane_of_isCollection {resource : BoundResource σ} {path : List Char}
    (named : resource.IsCollection path) :
    ∃ lane, resource.bindingsOn lane = resource.bindingsOn .collection ∧
      resource.pattern lane = .plain path := by
  rcases named with rfl | rfl
  · exact ⟨.collection, rfl, rfl⟩
  · exact ⟨.trailing, rfl, rfl⟩

end BoundResource

namespace Router.Lists

variable {router : Router σ} {resources : List (BoundResource σ)} {path : List Char}

/-- The path of a collection is found with the bindings of the collection. -/
theorem find?_collection (lists : router.Lists resources)
    (distinct : resources.Pairwise fun first second => first.base ≠ second.base)
    {resource : BoundResource σ} (member : resource ∈ resources)
    (named : resource.IsCollection path) :
    router.table.find? path = some (resource.bindingsOn .collection, []) := by
  obtain ⟨lane, alike, plain⟩ := BoundResource.exists_lane_of_isCollection named
  have listed : (resource.pattern lane, resource.bindingsOn lane) ∈ router.table :=
    (lists _).mpr ⟨resource, member, lane, rfl⟩
  have best : router.table.Best path (resource.pattern lane, resource.bindingsOn lane) [] := by
    constructor
    · rw [plain, Route.Pattern.match?_plain]
      exact ⟨rfl, rfl⟩
    · intro row isRow different matched
      obtain ⟨other, isOther, place, rfl⟩ := (lists row).mp isRow
      obtain ⟨captures, matched⟩ := Option.isSome_iff_exists.mp matched
      by_cases item : place = .item
      · subst item
        obtain ⟨value, ⟨rfl, nonempty, _⟩, _⟩ := (other.match?_item ..).mp matched
        have regrouped : other.base ++ '/' :: value = (other.base ++ ['/']) ++ value := by simp
        rw [plain, regrouped]
        exact Route.Pattern.preferred_plain_openEnded nonempty _
      · -- Two routes of plain text that match one path are the same route.
        rw [other.pattern_of_ne_item item, Route.Pattern.match?_plain] at matched
        have same : (resource.pattern lane).conflicts (other.pattern place) = true := by
          rw [plain, other.pattern_of_ne_item item, Route.Pattern.conflicts_plain]
          exact matched.1
        obtain ⟨rfl, bases⟩ := BoundResource.conflicts_pattern same
        obtain rfl := BoundResource.eq_of_base_eq distinct member isOther bases
        exact absurd rfl different
  rw [best.find?_eq listed, alike]

/-- The path of an item is found with the bindings of the item and the text of the identifier,
unless it is the path of a collection. -/
theorem find?_item (lists : router.Lists resources)
    (distinct : resources.Pairwise fun first second => first.base ≠ second.base)
    {resource : BoundResource σ} {value : List Char} (member : resource ∈ resources)
    (named : resource.IsItem value path)
    (free : ∀ other ∈ resources, ¬ other.IsCollection path) :
    router.table.find? path =
      some (resource.bindingsOn .item, [(resource.template.identifierName.toList, value)]) := by
  have listed : (resource.pattern .item, resource.bindingsOn .item) ∈ router.table :=
    (lists _).mpr ⟨resource, member, .item, rfl⟩
  have best : router.table.Best path (resource.pattern .item, resource.bindingsOn .item)
      [(resource.template.identifierName.toList, value)] := by
    constructor
    · exact (resource.match?_item ..).mpr ⟨value, named, rfl⟩
    · intro row isRow different matched
      obtain ⟨other, isOther, place, rfl⟩ := (lists row).mp isRow
      obtain ⟨captures, matched⟩ := Option.isSome_iff_exists.mp matched
      by_cases item : place = .item
      · subst item
        obtain ⟨text, otherNamed, _⟩ := (other.match?_item ..).mp matched
        have bases := (BoundResource.eq_of_isItem named otherNamed).1
        obtain rfl := BoundResource.eq_of_base_eq distinct member isOther bases
        exact absurd rfl different
      · exact absurd (BoundResource.isCollection_of_match? item matched) (free other isOther)
  exact best.find?_eq listed

/-- A path that leads nowhere is not found. -/
theorem find?_nowhere (lists : router.Lists resources)
    (free : ∀ other ∈ resources, ¬ other.IsCollection path)
    (unnamed : ∀ other ∈ resources, ∀ value, ¬ other.IsItem value path) :
    router.table.find? path = none := by
  refine Route.Table.find?_eq_none fun row isRow => ?_
  obtain ⟨other, isOther, place, rfl⟩ := (lists row).mp isRow
  refine Option.eq_none_iff_forall_ne_some.mpr fun captures matched => ?_
  by_cases item : place = .item
  · subst item
    obtain ⟨value, named, _⟩ := (other.match?_item ..).mp matched
    exact unnamed other isOther value named
  · exact free other isOther (BoundResource.isCollection_of_match? item matched)

end Router.Lists

/-! ## Answers -/

/-- The text of an identifier with its escapes decoded, if that is UTF-8. -/
def decodedIdentifier? (value : List Char) : Option String :=
  Text.Utf8.decode? (Text.Percent.decode (Text.Utf8.encodeChars value))

/-- How a request is to be answered. -/
inductive Answer (σ : Type) where
  /-- Through a binding, with the identifier of an item. -/
  | through (binding : Binding σ) (identifier : Option String)
  /-- With a status, and without reaching a binding. -/
  | refused (status : Nat)

/-- The exchange of a dispatch as it leaves a router, with the default of caching and its length. -/
def Exchange.completed (cache : CacheRule) (method : Http.Method) (exchange : Exchange σ) :
    Exchange σ :=
  { exchange with response := (cache.apply method exchange.response).withLength }

/-- The exchange of a dispatch as it leaves a router, for any method: with the default of caching,
its length, and no body where only header fields were asked for. -/
def Exchange.sent (cache : CacheRule) (method : Http.Method) (exchange : Exchange σ) : Exchange σ :=
  { exchange with
    response := forMethod method (cache.apply method exchange.response).withLength }

/-- Whether an exchange answers a request as it is to be answered. -/
def Answer.Settles (engine : Engine σ) (cache : CacheRule) (request : Request)
    (incident : Incident) (shared : Shared σ) (exchange : Exchange σ) : Answer σ → Prop
  | .through binding identifier =>
    exchange =
      (dispatch engine binding identifier request incident shared).completed cache request.method
  | .refused status => exchange.response.status = status ∧ exchange.shared = shared

/-- The answer for an item: through the binding of an operation if the identifier can be decoded. -/
def BoundResource.itemAnswer (resource : BoundResource σ) (value : List Char)
    (operation : Operation) : Answer σ :=
  match decodedIdentifier? value with
  | some identifier => .through (resource.binding operation) (some identifier)
  | none => .refused 400

/-- How requests with a method are to be answered at a place. -/
def Place.answer (method : Http.Method) : Place σ → Answer σ
  | .collection resource =>
    if method = .get then .through (resource.binding .fetchAll) none
    else if method = .post then .through (resource.binding .create) none
    else .refused 405
  | .item resource value =>
    if method = .get then resource.itemAnswer value .fetchOne
    else if method = .patch then resource.itemAnswer value .update
    else if method = .delete then resource.itemAnswer value .delete
    else .refused 405
  | .nowhere => .refused 404

@[simp] theorem status_withLength (response : Http.Response) :
    response.withLength.status = response.status := by
  unfold Http.Response.withLength
  split <;> rfl

@[simp] theorem body_withLength (response : Http.Response) :
    response.withLength.body = response.body := by
  unfold Http.Response.withLength
  split <;> rfl

/-- Stating the length touches no other field, and the length itself only if it was not stated. -/
theorem all_withLength_of_kept (response : Http.Response) {name : String}
    (kept : "content-length" ≠ name ∨ response.headers.all name ≠ []) :
    response.withLength.headers.all name = response.headers.all name := by
  unfold Http.Response.withLength
  split
  · rw [Http.Headers.all_setIfAbsent, if_neg]
    rintro ⟨rfl, bare⟩
    exact kept.elim (absurd rfl) (absurd bare)
  · rfl

@[simp] theorem CacheRule.status_apply (cache : CacheRule) (method : Http.Method)
    (response : Http.Response) : (cache.apply method response).status = response.status := by
  unfold CacheRule.apply
  split <;> rfl

/-- The default touches no other field. -/
theorem CacheRule.all_apply_of_ne (cache : CacheRule) (method : Http.Method) (response : Http.Response)
    {name : String} (other : CacheRule.headerName ≠ name) :
    (cache.apply method response).headers.all name = response.headers.all name := by
  unfold CacheRule.apply
  split
  · rw [Http.Headers.all_set, if_neg other]
  · rfl

@[simp] theorem CacheRule.body_apply (cache : CacheRule) (method : Http.Method) (response : Http.Response) :
    (cache.apply method response).body = response.body := by
  unfold CacheRule.apply
  split <;> rfl

@[simp] theorem status_withAllow (bindings : List (Binding σ)) (method : Http.Method)
    (response : Http.Response) : (withAllow bindings method response).status = response.status := by
  unfold withAllow
  split <;> rfl

@[simp] theorem status_forMethod (method : Http.Method) (response : Http.Response) :
    (forMethod method response).status = response.status := by
  unfold forMethod
  split <;> rfl

/-- An answer without a body keeps its fields. -/
theorem headers_forMethod (method : Http.Method) (response : Http.Response) :
    (forMethod method response).headers = response.headers := by
  unfold forMethod
  split <;> rfl

/-- The binding of a method is one of the route. -/
theorem mem_of_endpoint {bindings : List (Binding σ)} {method : Http.Method} {binding : Binding σ}
    (reached : endpoint bindings method = .bound binding) : binding ∈ bindings := by
  unfold endpoint at reached
  split at reached
  · cases reached
  · split at reached
    · next isBound =>
      cases reached
      exact List.mem_of_find?_eq_some isBound
    · cases reached

/-- How a route answers with its bindings replaced. -/
def Endpoint.map {τ : Type} (change : Binding σ → Binding τ) : Endpoint σ → Endpoint τ
  | .bound binding => .bound (change binding)
  | .methods => .methods
  | .unbound => .unbound

/-- Where bindings are replaced by others of the same methods, the same requests are answered. -/
theorem endpoint_map {τ : Type} {change : Binding σ → Binding τ}
    (kept : ∀ binding, (change binding).method = binding.method) (bindings : List (Binding σ))
    (method : Http.Method) :
    endpoint (bindings.map change) method = (endpoint bindings method).map change := by
  unfold endpoint
  rw [List.find?_map, Function.comp_def]
  simp only [kept]
  split
  · rfl
  · cases bindings.find? (·.method == boundMethod method) <;> rfl

namespace Router

variable {router : Router σ} {request : Request} {resource : BoundResource σ} {lane : Lane}
  {bindings : List (Binding σ)} {captures : Route.Captures}

/-- A request that the route of its path answers through a binding is served through that binding. -/
theorem serve_of_reached {binding : Binding σ}
    (found : router.table.find? request.uri.path = some (bindings, captures))
    (reached : endpoint bindings request.method = .bound binding) (incident : Incident)
    (shared : Shared σ) :
    router.serve request incident shared =
      (dispatchOn router.engine binding captures request incident shared).sent router.cache
        request.method := by
  simp only [serve, found, answerOn, withAllow, reached]
  rfl

/-- The methods of a path are told with nothing else. -/
theorem serve_of_options
    (found : router.table.find? request.uri.path = some (bindings, captures))
    (options : request.method = .options) (incident : Incident) (shared : Shared σ) :
    router.serve request incident shared =
      ⟨⟨204, [⟨"allow", .ofText (offeredMethods bindings)⟩, ⟨"content-length", .ofText "0"⟩],
        .none⟩, shared, []⟩ := by
  have asked : endpoint bindings .options = .methods := rfl
  simp only [serve, found, options, answerOn, withAllow, asked]
  rfl

/-- A method that is not bound is refused with the methods that are. -/
theorem serve_of_unreached
    (found : router.table.find? request.uri.path = some (bindings, captures))
    (unreached : endpoint bindings request.method = .unbound) (incident : Incident)
    (shared : Shared σ) :
    router.serve request incident shared =
      ⟨⟨405, [⟨"allow", .ofText (allowedMethods bindings)⟩, ⟨"content-length", .ofText "0"⟩],
        .none⟩, shared, []⟩ := by
  simp only [serve, found, answerOn, withAllow, unreached, forMethod]
  split <;> rfl

/-- A request whose method belongs to an operation on the route of its path is served through the
binding of that operation. -/
theorem serve_of_bound
    (found : router.table.find? request.uri.path = some (resource.bindingsOn lane, captures))
    (notHead : request.method ≠ .head) (notOptions : request.method ≠ .options)
    {operation : Operation}
    (bound : lane.operations.find? (·.method == request.method) = some operation)
    (incident : Incident) (shared : Shared σ) :
    router.serve request incident shared =
      (dispatchOn router.engine (resource.binding operation) captures request incident
        shared).completed router.cache request.method := by
  have first : (resource.bindingsOn lane).find? (·.method == request.method) =
      some (resource.binding operation) := by
    rw [BoundResource.bindingsOn, List.find?_map]
    exact congrArg (Option.map resource.binding) bound
  have reached : endpoint (resource.bindingsOn lane) request.method =
      .bound (resource.binding operation) := by
    simp only [endpoint, notOptions, if_false, boundMethod, notHead, first]
  rw [serve_of_reached found reached, Exchange.sent, forMethod, if_neg notHead]
  rfl

/-- A request whose method belongs to no operation on the route of its path is refused. -/
theorem serve_of_unbound
    (found : router.table.find? request.uri.path = some (resource.bindingsOn lane, captures))
    (notHead : request.method ≠ .head) (notOptions : request.method ≠ .options)
    (unbound : ∀ operation ∈ lane.operations, operation.method ≠ request.method)
    (incident : Incident) (shared : Shared σ) :
    (router.serve request incident shared).response.status = 405 ∧
      (router.serve request incident shared).shared = shared := by
  have none_bound : (resource.bindingsOn lane).find? (·.method == request.method) = none := by
    refine List.find?_eq_none.mpr fun binding member same => ?_
    obtain ⟨operation, listed, rfl⟩ := List.mem_map.mp member
    exact unbound operation listed (beq_iff_eq.mp same)
  have unreached : endpoint (resource.bindingsOn lane) request.method = .unbound := by
    simp only [endpoint, notOptions, if_false, boundMethod, notHead, none_bound]
  rw [serve_of_unreached found unreached]
  exact ⟨rfl, rfl⟩

/-- A request whose path is not found is refused. -/
theorem serve_of_unfound (unfound : router.table.find? request.uri.path = none)
    (incident : Incident) (shared : Shared σ) :
    (router.serve request incident shared).response.status = 404 ∧
      (router.serve request incident shared).shared = shared := by
  simp only [serve, unfound, status_withLength, and_true]
  rfl

end Router

/-- On the route of an item the identifier is decoded before a binding is reached. -/
theorem BoundResource.settles_itemAnswer (resource : BoundResource σ) (value : List Char)
    {operation : Operation} (item : operation.targetsItem = true) (engine : Engine σ)
    (cache : CacheRule) (request : Request) (incident : Incident) (shared : Shared σ) :
    (resource.itemAnswer value operation).Settles engine cache request incident shared
      ((dispatchOn engine (resource.binding operation)
        [(resource.template.identifierName.toList, value)] request incident shared).completed cache
          request.method) := by
  unfold itemAnswer decodedIdentifier?
  simp only [dispatchOn, operation_binding, item, if_true, decodeCaptures]
  cases Text.Utf8.decode? (Text.Percent.decode (Text.Utf8.encodeChars value)) with
  | some identifier => rfl
  | none =>
    simp only [Answer.Settles, Exchange.completed, status_withLength, CacheRule.status_apply,
      and_true]
    rfl

namespace Router.Lists

variable {router : Router σ} {resources : List (BoundResource σ)}

/-- A router that lists resources answers each request as the place of its path does. -/
theorem settles_serve (lists : router.Lists resources)
    (distinct : resources.Pairwise fun first second => first.base ≠ second.base)
    {request : Request} {place : Place σ} (leads : place.Leads resources request.uri.path)
    (notHead : request.method ≠ .head) (notOptions : request.method ≠ .options)
    (incident : Incident) (shared : Shared σ) :
    (place.answer request.method).Settles router.engine router.cache request incident shared
      (router.serve request incident shared) := by
  cases leads with
  | nowhere free unnamed =>
    exact serve_of_unfound (lists.find?_nowhere free unnamed) incident shared
  | collection member named =>
    have found := lists.find?_collection distinct member named
    by_cases reads : request.method = .get
    · have bound : Lane.collection.operations.find? (·.method == request.method) =
          some .fetchAll := by
        rw [reads]
        rfl
      rw [serve_of_bound found notHead notOptions bound, Place.answer, if_pos reads]
      rfl
    by_cases creates : request.method = .post
    · have bound : Lane.collection.operations.find? (·.method == request.method) =
          some .create := by
        rw [creates]
        rfl
      rw [serve_of_bound found notHead notOptions bound, Place.answer, if_neg reads, if_pos creates]
      rfl
    · have unbound : ∀ operation ∈ Lane.collection.operations,
          operation.method ≠ request.method := by
        simp [Lane.operations, Operation.method, Ne.symm reads, Ne.symm creates]
      rw [Place.answer, if_neg reads, if_neg creates]
      exact serve_of_unbound found notHead notOptions unbound incident shared
  | @item resource value member named free =>
    have found := lists.find?_item distinct member named free
    have settled {operation : Operation} (item : operation.targetsItem = true)
        (bound : Lane.item.operations.find? (·.method == request.method) = some operation) :
        (resource.itemAnswer value operation).Settles router.engine router.cache request incident
          shared (router.serve request incident shared) := by
      rw [serve_of_bound found notHead notOptions bound]
      exact resource.settles_itemAnswer value item ..
    by_cases reads : request.method = .get
    · rw [Place.answer, if_pos reads]
      exact settled rfl (by rw [reads]; rfl)
    by_cases updates : request.method = .patch
    · rw [Place.answer, if_neg reads, if_pos updates]
      exact settled rfl (by rw [updates]; rfl)
    by_cases deletes : request.method = .delete
    · rw [Place.answer, if_neg reads, if_neg updates, if_pos deletes]
      exact settled rfl (by rw [deletes]; rfl)
    · have unbound : ∀ operation ∈ Lane.item.operations, operation.method ≠ request.method := by
        simp [Lane.operations, Operation.method, Ne.symm reads, Ne.symm updates, Ne.symm deletes]
      rw [Place.answer, if_neg reads, if_neg updates, if_neg deletes]
      exact serve_of_unbound found notHead notOptions unbound incident shared

end Router.Lists

namespace Registration

/-- Whatever has been offered, a router of the accepted resources answers each request, other than
for header fields alone or for the methods of a path, as the place of its path does; and that is the
only place to which the path leads. -/
theorem router_serves_places (offers : List (Offer σ)) (engine : Engine σ) (cache : CacheRule)
    {router : Router σ} (built : Router.build? (run offers).registry engine cache = some router) :
    ∃ resources : List (BoundResource σ),
      resources.map BoundResource.offer = (run offers).accepted ∧
      ∀ (request : Request) (incident : Incident) (shared : Shared σ),
        request.method ≠ .head → request.method ≠ .options →
          ∃ place : Place σ, place.Leads resources request.uri.path ∧
            (∀ other : Place σ, other.Leads resources request.uri.path → other = place) ∧
            (place.answer request.method).Settles engine cache request incident shared
              (router.serve request incident shared) := by
  obtain ⟨resources, holds⟩ := exists_holds_run offers
  have lists : router.Lists resources := fun _ =>
    Router.mem_table_iff holds.bindings holds.distinct built
  obtain ⟨table, _, rfl⟩ := Option.map_eq_some_iff.mp built
  refine ⟨resources, holds.accepted, fun request incident shared notHead notOptions => ?_⟩
  obtain ⟨place, leads, unique⟩ := Place.existsUnique_leads holds.distinct request.uri.path
  exact ⟨place, leads, unique,
    lists.settles_serve holds.distinct leads notHead notOptions incident shared⟩

/-- A router of one resource answers a read of an item whose identifier is escaped. -/
theorem category_router_serves_places :
    let offers : List (Offer Unit) :=
      [⟨"/location/category/\x7bcategory-id\x7d", {}, .writtenBy ["W"]⟩]
    let engine : Engine Unit := ⟨.checkedByLease fun _ => .ok (), .derived, "/spk-data"⟩
    let request : Request :=
      ⟨.get, ⟨"/location/category/Folsom%20Lake".toList, none⟩, [], [], none⟩
    ∃ router, Router.build? (run offers).registry engine .standard = some router ∧
      ∃ resources : List (BoundResource Unit),
        resources.map BoundResource.offer = (run offers).accepted ∧
        request.method ≠ .head ∧ request.method ≠ .options ∧
        ∃ place : Place Unit, place.Leads resources request.uri.path ∧
          (∀ other : Place Unit, other.Leads resources request.uri.path → other = place) ∧
          (place.answer request.method).Settles engine .standard request ⟨0⟩ (.start ())
            (router.serve request ⟨0⟩ (.start ())) := by
  intro offers engine request
  have builds : (Router.build? (run offers).registry engine .standard).isSome = true := by
    decide +kernel
  obtain ⟨router, built⟩ := Option.isSome_iff_exists.mp builds
  obtain ⟨resources, accepted, serves⟩ := router_serves_places offers engine .standard built
  have notHead : request.method ≠ .head := by decide
  have notOptions : request.method ≠ .options := by decide
  exact ⟨router, built, resources, accepted, notHead, notOptions,
    serves request ⟨0⟩ (.start ()) notHead notOptions⟩

end Registration

end Sluice.Resource
