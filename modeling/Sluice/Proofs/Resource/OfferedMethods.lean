import Sluice.Proofs.Resource.ItemRequests
import Sluice.Proofs.Resource.SharedPaths
import Sluice.Proofs.Text.Parts

/-!
# Methods of a path

A router answers the request for the methods of a path with a list of names, which is written apart
from the search for the binding of a request. `Registration.offered_methods_exact` says that the two
agree on every path: a request reaches a binding exactly if its method stands in the list, and the
names of the list are those of the bindings on the route to which the path is dispatched, implemented
or not. That takes two facts about the bindings on a route: each has the method of its operation, and
no two have the same, `AreApart`.
-/

namespace Sluice.Text

/-- A text that can stand as an item in a list with commas. -/
structure IsItem (text : String) : Prop where
  uncut : ',' ∉ text.toList
  trimmed : trimmed? text = some text

/-- A blank in front belongs to no item. -/
theorem items_blank (cs : List Char) :
    items ',' (String.ofList (' ' :: cs)) = items ',' (String.ofList cs) := by
  obtain ⟨first, others, shape⟩ := List.exists_cons_of_ne_nil (piecesChars_ne_nil ',' cs)
  have behind := piecesChars_cons_of_ne (show ' ' ≠ ',' by decide) shape
  have trimmed : trimmed? (String.ofList (' ' :: first)) = trimmed? (String.ofList first) := by
    simp only [trimmed?, trim, trimChars, trimStartChars, String.toList_ofList]
    rfl
  simp only [items, pieces, String.toList_ofList, behind, shape, List.map_cons,
    List.filterMap_cons, trimmed]

/-- An item alone is a list of one. -/
theorem IsItem.items_eq {text : String} (item : IsItem text) : items ',' text = [text] := by
  simp only [items, pieces, piecesChars_eq_splitOn, List.splitOn_eq_singleton item.uncut,
    List.map_cons, List.map_nil, String.ofList_toList, List.filterMap_cons, item.trimmed,
    List.filterMap_nil]

/-- A list is read as it was written. -/
theorem items_joined {names : List String} (clean : ∀ name ∈ names, IsItem name) :
    items ',' (", ".intercalate names) = names := by
  induction names with
  | nil => rfl
  | cons first rest ih =>
    have item := clean first List.mem_cons_self
    have later := ih fun name member => clean name (List.mem_cons_of_mem first member)
    cases rest with
    | nil =>
      rw [String.intercalate_singleton]
      exact item.items_eq
    | cons second tail =>
      have written : ", ".intercalate (first :: second :: tail) =
          String.ofList (first.toList ++ ',' :: ' ' :: (", ".intercalate (second :: tail)).toList) := by
        rw [String.intercalate_cons_cons, ← String.toList_inj]
        simp only [String.toList_append, String.toList_ofList, List.append_assoc]
        rfl
      rw [written, items_append_comma, items_blank, String.ofList_toList, String.ofList_toList,
        item.items_eq, later]
      rfl

end Sluice.Text

namespace Sluice.Http

/-- A method is its name. -/
theorem Method.name_injective : Function.Injective Method.name := by
  rintro ⟨first⟩ ⟨second⟩ rfl
  rfl

end Sluice.Http

namespace Sluice.Resource

variable {σ : Type}

/-! ## Bindings on a route -/

/-- The names of the methods of a route. -/
def offeredNames (bindings : List (Binding σ)) : List String :=
  bindings.map (·.method.name) ++ [Http.Method.options.name]

/-- Bindings that can stand on one route: each has the method of its operation, and no two have the
same. -/
structure AreApart (bindings : List (Binding σ)) : Prop where
  method : ∀ binding ∈ bindings, binding.method = binding.operation.method
  distinct : (bindings.map (·.method)).Nodup

/-- No operation has the method of the request for the methods of a path. -/
theorem Operation.method_ne_options (operation : Operation) : operation.method ≠ .options := by
  cases operation <;> decide

/-- A write has another method than a read. -/
theorem Operation.method_ne_get {operation : Operation} (write : operation.isRead = false) :
    operation.method ≠ .get := by
  cases operation with
  | fetchOne | fetchAll => cases write
  | create | update | delete => decide

/-- The name of the method of an operation can stand in a list. -/
theorem Operation.isItem_method (operation : Operation) : Text.IsItem operation.method.name := by
  constructor
  case uncut => cases operation <;> decide
  case trimmed => cases operation <;> decide +kernel

/-- The bindings of a resource stand apart on each of its routes. -/
theorem BoundResource.areApart_bindingsOn (resource : BoundResource σ) (lane : Lane) :
    AreApart (resource.bindingsOn lane) := by
  constructor
  case method =>
    intro binding member
    obtain ⟨operation, _, rfl⟩ := List.mem_map.mp member
    rfl
  case distinct =>
    have methods : (resource.bindingsOn lane).map (·.method) =
        lane.operations.map Operation.method := by
      rw [bindingsOn, List.map_map]
      rfl
    rw [methods]
    cases lane <;> decide

/-- The request for the methods of a path reaches no binding. -/
theorem ne_options_of_bound {bindings : List (Binding σ)} {method : Http.Method}
    {binding : Binding σ} (reached : endpoint bindings method = .bound binding) :
    method ≠ .options := by
  rintro rfl
  cases reached

/-- What is found for a method has it. -/
theorem method_of_find? {bindings : List (Binding σ)} {method : Http.Method} {binding : Binding σ}
    (found : bindings.find? (·.method == method) = some binding) : binding.method = method := by
  have named := List.find?_some found
  exact beq_iff_eq.mp named

namespace AreApart

variable {bindings : List (Binding σ)} {method : Http.Method}

/-- The binding that answers requests with a method is the one that has the method. -/
theorem endpoint_eq_bound_iff (apart : AreApart bindings) (notOptions : method ≠ .options)
    (binding : Binding σ) :
    endpoint bindings method = .bound binding ↔
      binding ∈ bindings ∧ binding.method = boundMethod method := by
  rw [endpoint, if_neg notOptions]
  constructor
  · intro reached
    split at reached
    · next first found =>
      cases reached
      exact ⟨List.mem_of_find?_eq_some found, method_of_find? found⟩
    · cases reached
  · rintro ⟨member, named⟩
    have isFound : (bindings.find? (·.method == boundMethod method)).isSome = true :=
      List.find?_isSome.mpr ⟨binding, member, beq_iff_eq.mpr named⟩
    obtain ⟨first, found⟩ := Option.isSome_iff_exists.mp isFound
    have same : first.method = binding.method := (method_of_find? found).trans named.symm
    obtain rfl :=
      List.inj_on_of_nodup_map apart.distinct (List.mem_of_find?_eq_some found) member same
    rw [found]

/-- A method is in the list exactly if a binding has it or it is that of the request for the list. -/
theorem mem_offeredNames_iff (bindings : List (Binding σ)) (name : String) :
    name ∈ offeredNames bindings ↔
      name = "OPTIONS" ∨ ∃ binding ∈ bindings, binding.method.name = name := by
  rw [offeredNames, List.mem_append, List.mem_map, List.mem_singleton]
  exact or_comm

/-- No name stands in the list twice. -/
theorem nodup_offeredNames (apart : AreApart bindings) : (offeredNames bindings).Nodup := by
  have names : (bindings.map (·.method.name)).Nodup := by
    have mapped : bindings.map (·.method.name) = (bindings.map (·.method)).map (·.name) := by
      rw [List.map_map]
      rfl
    rw [mapped]
    exact apart.distinct.map Http.Method.name_injective
  -- The name at the end belongs to no operation, and every binding has the method of one.
  refine names.append (List.nodup_singleton _) fun name member last => ?_
  obtain ⟨binding, isBound, rfl⟩ := List.mem_map.mp member
  have options : binding.method = .options :=
    Http.Method.name_injective (List.mem_singleton.mp last)
  exact binding.operation.method_ne_options ((apart.method binding isBound).symm.trans options)

/-- The list that is written is read as it was meant. -/
theorem items_offeredMethods (apart : AreApart bindings) :
    Text.items ',' (offeredMethods bindings) = offeredNames bindings := by
  refine Text.items_joined fun name member => ?_
  rcases (mem_offeredNames_iff bindings name).mp member with rfl | ⟨binding, isBound, rfl⟩
  · exact ⟨by decide, by decide +kernel⟩
  · rw [apart.method binding isBound]
    exact binding.operation.isItem_method

end AreApart

/-! ## Requests -/

/-- The binding that a request reaches, with the parameters of its path. -/
def Router.binding? (router : Router σ) (request : Request) : Option (Binding σ × Route.Captures) :=
  match router.table.find? request.uri.path with
  | none => none
  | some (bindings, captures) =>
    match endpoint bindings request.method with
    | .bound binding => some (binding, captures)
    | .methods | .unbound => none

/-- How a router answers a request whose path is dispatched to a route with some bindings, for which
some names are listed. -/
structure Router.AnswersOn (router : Router σ) (bindings : List (Binding σ))
    (captures : Route.Captures) (names : List String) (request : Request) (incident : Incident)
    (shared : Shared σ) (exchange : Exchange σ) : Prop where
  /-- The request for the methods of the path is answered with the list, whatever else it says. -/
  listed : request.method = .options →
    exchange.response.status = 204 ∧
      (∃ text, exchange.response.headers.all "allow" = [.ofText text] ∧
        Text.items ',' text = names) ∧
      exchange.response.body = .none ∧ exchange.shared = shared ∧ exchange.events = []
  /-- Any other reaches a binding exactly if its method is listed, header fields alone being read
  like the whole. -/
  reached : request.method ≠ .options →
    ((∃ binding, router.binding? request = some (binding, captures)) ↔
      (boundMethod request.method).name ∈ names)
  /-- The binding is one of the route, its operation has the method, and the answer comes from it. -/
  served : ∀ binding, router.binding? request = some (binding, captures) →
    binding ∈ bindings ∧ binding.operation.method = boundMethod request.method ∧
      exchange = (dispatchOn router.engine binding captures request incident shared).sent
        router.cache request.method
  /-- What reaches no binding is refused by the router. -/
  refused : request.method ≠ .options → router.binding? request = none →
    exchange.response.status = 405 ∧ exchange.shared = shared ∧ exchange.events = []

namespace Router

variable {router : Router σ} {request : Request} {bindings : List (Binding σ)}
  {captures : Route.Captures}

/-- On a known route, a request reaches the binding that answers its method. -/
theorem binding?_eq_some_iff
    (found : router.table.find? request.uri.path = some (bindings, captures))
    (binding : Binding σ) :
    router.binding? request = some (binding, captures) ↔
      endpoint bindings request.method = .bound binding := by
  simp only [binding?, found]
  cases endpoint bindings request.method <;> simp

/-- What is not asked for the methods and reaches no binding has a method that is not bound. -/
theorem endpoint_eq_unbound_of_binding?
    (found : router.table.find? request.uri.path = some (bindings, captures))
    (notOptions : request.method ≠ .options) (unreached : router.binding? request = none) :
    endpoint bindings request.method = .unbound := by
  simp only [binding?, found] at unreached
  cases answered : endpoint bindings request.method with
  | unbound => rfl
  | bound binding =>
    rw [answered] at unreached
    cases unreached
  | methods =>
    simp only [endpoint, notOptions, if_false] at answered
    split at answered <;> cases answered

/-- On a route whose bindings stand apart, the list and the search for a binding agree. -/
theorem answersOn_of_apart (apart : AreApart bindings)
    (found : router.table.find? request.uri.path = some (bindings, captures))
    (incident : Incident) (shared : Shared σ) :
    router.AnswersOn bindings captures (offeredNames bindings) request incident shared
      (router.serve request incident shared) := by
  constructor
  case listed =>
    intro options
    rw [serve_of_options found options]
    exact ⟨rfl, ⟨_, by simp [Http.Headers.all], apart.items_offeredMethods⟩, rfl, rfl, rfl⟩
  case reached =>
    intro notOptions
    simp only [binding?_eq_some_iff found, apart.endpoint_eq_bound_iff notOptions]
    rw [AreApart.mem_offeredNames_iff]
    constructor
    · rintro ⟨binding, member, named⟩
      exact .inr ⟨binding, member, congrArg Http.Method.name named⟩
    · rintro (isOptions | ⟨binding, member, named⟩)
      · have options : boundMethod request.method = .options :=
          Http.Method.name_injective isOptions
        unfold boundMethod at options
        split at options
        · exact absurd options (by decide)
        · exact absurd options notOptions
      · exact ⟨binding, member, Http.Method.name_injective named⟩
  case served =>
    intro binding isReached
    have reached := (binding?_eq_some_iff found binding).mp isReached
    obtain ⟨member, named⟩ :=
      (apart.endpoint_eq_bound_iff (ne_options_of_bound reached) binding).mp reached
    exact ⟨member, (apart.method binding member).symm.trans named,
      serve_of_reached found reached incident shared⟩
  case refused =>
    intro notOptions unreached
    rw [serve_of_unreached found (endpoint_eq_unbound_of_binding? found notOptions unreached)]
    exact ⟨rfl, rfl, rfl⟩

/-- The bindings that a router of resources finds for a path stand apart. -/
theorem Lists.areApart_of_find? {resources : List (BoundResource σ)} (lists : router.Lists resources)
    {path : List Char} (found : router.table.find? path = some (bindings, captures)) :
    AreApart bindings := by
  obtain ⟨_, isRow, _⟩ := Route.Table.exists_row_of_find? found
  obtain ⟨resource, _, lane, row⟩ := (lists _).mp isRow
  obtain ⟨_, rfl⟩ := Prod.mk.inj row
  exact resource.areApart_bindingsOn lane

end Router

/-- Whether a path matches a route of a registry, with the parameters that the route takes from it. -/
structure Registry.Matches (registry : Registry σ) (route : String) (path : List Char)
    (captures : Route.Captures) : Prop where
  listed : route ∈ registry.routeTexts
  matched : (Route.Pattern.parse? route).bind (·.match? path) = some captures

namespace Registration

/-- A path that matches a route of the accepted offers is dispatched to one that it matches, and there
the bindings stand apart. -/
theorem Holds.exists_dispatched {state : Registration σ} {resources : List (BoundResource σ)}
    (holds : state.Holds resources) {engine : Engine σ} {cache : CacheRule} {router : Router σ}
    (built : Router.build? state.registry engine cache = some router) {path : List Char}
    (known : ∃ route captures, state.registry.Matches route path captures) :
    ∃ route captures, state.registry.Matches route path captures ∧
      router.table.find? path = some (state.registry.bindingsOn route, captures) ∧
      AreApart (state.registry.bindingsOn route) := by
  have lists := Router.lists_of_build? holds.bindings holds.distinct built
  have routable := Router.isRoutable_of_build? holds.bindings holds.distinct built
  obtain ⟨text, caught, listed, matched⟩ := known
  obtain ⟨resource, member, lane, rfl⟩ := (Registry.mem_routeTexts holds.bindings).mp listed
  rw [BoundResource.parse?_route (routable resource member), Option.bind_some] at matched
  have isPath : resource.Matches path := ⟨lane, Option.isSome_iff_exists.mpr ⟨caught, matched⟩⟩
  obtain ⟨⟨bindings, captures⟩, found⟩ := Option.isSome_iff_exists.mp
    (lists.isSome_find?_of_matches holds.distinct member isPath)
  -- The row that is found is that of a route, which need not be the one that is known to match.
  obtain ⟨pattern, isRow, best⟩ := Route.Table.exists_row_of_find? found
  obtain ⟨other, isOther, place, row⟩ := (lists _).mp isRow
  obtain ⟨rfl, rfl⟩ := Prod.mk.inj row
  have onRoute := Registry.bindingsOn_route holds.bindings holds.distinct isOther place
  refine ⟨other.route place, captures, ⟨?listed, ?matched⟩, ?found, ?apart⟩
  case listed => exact (Registry.mem_routeTexts holds.bindings).mpr ⟨other, isOther, place, rfl⟩
  case matched => rw [BoundResource.parse?_route (routable other isOther), Option.bind_some, best]
  case found => rw [onRoute, found]
  case apart =>
    rw [onRoute]
    exact other.areApart_bindingsOn place

/-- Whatever has been offered, and whatever path matches a route of the accepted offers, a router of
these dispatches the path to a route that it matches. The names that are listed there are those of the
methods of the bindings on that route, implemented or not, and of the request for the list, each once.
A request with the path reaches a binding exactly if its method is listed, and is otherwise refused by
the router. -/
theorem offered_methods_exact (offers : List (Offer σ)) (engine : Engine σ) (cache : CacheRule)
    {router : Router σ} (built : Router.build? (run offers).registry engine cache = some router)
    {path : List Char}
    (known : ∃ route captures, (run offers).registry.Matches route path captures) :
    ∃ route captures names, (run offers).registry.Matches route path captures ∧
      router.table.find? path = some ((run offers).registry.bindingsOn route, captures) ∧
      names.Nodup ∧
      (∀ name, name ∈ names ↔ name = "OPTIONS" ∨
        ∃ binding ∈ (run offers).registry.bindingsOn route, binding.method.name = name) ∧
      ∀ (request : Request) (incident : Incident) (shared : Shared σ), request.uri.path = path →
        router.AnswersOn ((run offers).registry.bindingsOn route) captures names request incident
          shared (router.serve request incident shared) := by
  obtain ⟨resources, holds⟩ := exists_holds_run offers
  obtain ⟨route, captures, isMatch, found, apart⟩ := holds.exists_dispatched built known
  refine ⟨route, captures, offeredNames _, isMatch, found, apart.nodup_offeredNames,
    AreApart.mem_offeredNames_iff _, fun request incident shared samePath => ?_⟩
  exact Router.answersOn_of_apart apart (samePath ▸ found) incident shared

/-- A path that is known as that of an item of one resource and is the collection of another. -/
theorem shared_path_offers_exactly :
    let offers : List (Offer Unit) :=
      [⟨"/a/\x7bx\x7d", {}, .writtenBy ["W"]⟩, ⟨"/a/b/\x7by\x7d", {}, .writtenBy ["W"]⟩]
    let engine : Engine Unit := ⟨.checkedByLease fun _ => .ok (), .derived, ""⟩
    let registry := (run offers).registry
    let path := "/a/b".toList
    registry.Matches "/a/:x" path [("x".toList, "b".toList)] ∧
      ∃ router, Router.build? registry engine .standard = some router ∧
        ∃ route captures names, registry.Matches route path captures ∧
          router.table.find? path = some (registry.bindingsOn route, captures) ∧ names.Nodup ∧
          (∀ name, name ∈ names ↔ name = "OPTIONS" ∨
            ∃ binding ∈ registry.bindingsOn route, binding.method.name = name) ∧
          ∀ (request : Request) (incident : Incident) (shared : Shared Unit),
            request.uri.path = path →
              router.AnswersOn (registry.bindingsOn route) captures names request incident shared
                (router.serve request incident shared) := by
  intro offers engine registry path
  have known : registry.Matches "/a/:x" path [("x".toList, "b".toList)] :=
    ⟨by decide +kernel, by decide +kernel⟩
  have builds : (Router.build? registry engine .standard).isSome = true := by decide +kernel
  obtain ⟨router, built⟩ := Option.isSome_iff_exists.mp builds
  exact ⟨known, router, built,
    offered_methods_exact offers engine .standard built ⟨_, _, known⟩⟩

end Registration

end Sluice.Resource
