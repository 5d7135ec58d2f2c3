import Sluice.Proofs.Resource.Caching
import Sluice.Proofs.Resource.TemplateForms

/-!
# Complete bindings

What a resource is bound to. The method of an operation, its path, the inputs that a handler takes for
it and those that its stand-in takes are written in four tables; `Complete` says in which way they
agree, whatever the handler implements. The paths of items and collections never coincide, and a
request reaches a binding that takes an identifier only where its path names no collection,
`Binding.Placed`.
-/

namespace Sluice.Resource

variable {σ : Type}

/-! ## What a handler provides -/

/-- What a handler does for an operation: the action that it holds for it, called with the inputs of
the operation. -/
inductive Handler.Provides (handler : Handler σ) : Operation → Invocation σ → Prop where
  | fetchOne {run} (held : handler.fetchOne = some run) : Provides handler .fetchOne (.item run)
  | fetchAll {run} (held : handler.fetchAll = some run) : Provides handler .fetchAll (.filters run)
  | create {run} (held : handler.create = some run) : Provides handler .create (.payload run)
  | update {run} (held : handler.update = some run) : Provides handler .update (.itemPayload run)
  | delete {run} (held : handler.delete = some run) : Provides handler .delete (.item run)

/-- The implementation that is looked up is the one that is provided. -/
theorem Handler.invocation?_eq_some_iff {handler : Handler σ} {operation : Operation}
    {own : Invocation σ} :
    handler.invocation? operation = some own ↔ handler.Provides operation own := by
  constructor
  · intro found
    cases operation
    all_goals
      obtain ⟨run, held, rfl⟩ := Option.map_eq_some_iff.mp found
      constructor
      exact held
  · intro provided
    cases provided with
    | fetchOne held | fetchAll held | create held | update held | delete held =>
      exact Option.map_eq_some_iff.mpr ⟨_, held, rfl⟩

/-- Whether an invocation fails in one way, whatever its inputs, leaves the data alone and reports
nothing. -/
def Invocation.OnlyFails (failure : Failure) : Invocation σ → Prop
  | .item run => ∀ context identifier store,
      run context identifier store = ⟨.error failure, store, []⟩
  | .filters run => ∀ context filters store,
      run context filters store = ⟨.error failure, store, []⟩
  | .payload run => ∀ context payload store,
      run context payload store = ⟨.error failure, store, []⟩
  | .itemPayload run => ∀ context identifier payload store,
      run context identifier payload store = ⟨.error failure, store, []⟩

/-- The stand-in for an operation only fails. -/
theorem Invocation.onlyFails_notImplemented (operation : Operation) (text : String) :
    (notImplemented operation text : Invocation σ).OnlyFails (.notImplemented operation text) := by
  cases operation with
  | fetchOne | fetchAll | create | delete => exact fun _ _ _ => rfl
  | update => exact fun _ _ _ _ => rfl

/-! ## The bindings of a resource -/

/-- Bindings of a template that are complete for a handler and a policy. -/
structure Complete (template : Template) (handler : Handler σ) (policy : AccessPolicy)
    (bindings : List (Binding σ)) : Prop where
  operations : bindings.map (·.operation) = [.fetchAll, .fetchOne, .create, .update, .delete]
  distinct : (bindings.map fun binding => (binding.method, binding.path)).Nodup
  notPut : ∀ binding ∈ bindings, binding.method.name ≠ "PUT"
  apart : template.itemPath ≠ template.collectionPath
  path : ∀ binding ∈ bindings, binding.path =
    if binding.invocation.takesIdentifier then template.itemPath else template.collectionPath
  implemented : ∀ binding ∈ bindings,
    (binding.implemented = true ↔ ∃ own, handler.Provides binding.operation own)
  own : ∀ binding ∈ bindings, ∀ own, handler.Provides binding.operation own →
    binding.invocation = own
  standIn : ∀ binding ∈ bindings, binding.implemented = false →
    binding.invocation.OnlyFails (.notImplemented binding.operation template.text)
  /-- Where an operation is left out, the binding is that of a handler without any action, so there is
  no action of this handler that it could call. -/
  unheld : ∀ binding ∈ bindings, binding.implemented = false →
    ∃ bare, Binding.ofResource template.text {} policy = .ok bare ∧ binding ∈ bare

/-- The path of an item goes on behind that of the collection. -/
theorem Template.Sound.itemPath_ne_collectionPath {template : Template} (sound : template.Sound) :
    template.itemPath ≠ template.collectionPath := by
  have clean : IsSegment template.identifierSegment.toList :=
    isSegment_of_mem (by rw [sound.segments]; simp)
  intro same
  rw [← String.toList_inj, sound.toList_itemPath, collectionPath, String.toList_append,
    sound.toList_routeCollection] at same
  exact clean.1 (List.tail_eq_of_cons_eq (List.append_cancel_left same))

namespace BoundResource

/-- What the handler provides for an operation is what its binding invokes. -/
theorem binding_of_provides {resource : BoundResource σ} {operation : Operation}
    {own : Invocation σ} (provided : resource.handler.Provides operation own) :
    (resource.binding operation).implemented = true ∧
      (resource.binding operation).invocation = own := by
  have found := Handler.invocation?_eq_some_iff.mpr provided
  simp only [binding, Binding.ofOperation, Handler.implements, found, Option.isSome_some,
    Option.getD_some, and_self]

/-- A binding is implemented exactly if the handler provides its operation. -/
theorem implemented_binding_iff (resource : BoundResource σ) (operation : Operation) :
    (resource.binding operation).implemented = true ↔
      ∃ own, resource.handler.Provides operation own := by
  simp only [binding, Binding.ofOperation, Handler.implements, Option.isSome_iff_exists,
    Handler.invocation?_eq_some_iff]

/-- A binding that is not implemented has the stand-in, as if the handler held nothing at all. -/
theorem binding_of_not_implemented {resource : BoundResource σ} {operation : Operation}
    (missing : (resource.binding operation).implemented = false) :
    (resource.binding operation).invocation =
        .notImplemented operation resource.template.text ∧
      resource.binding operation =
        ({ resource with handler := {} } : BoundResource σ).binding operation := by
  have absent : resource.handler.invocation? operation = none := Option.not_isSome_iff_eq_none.mp
    (by simpa [binding, Binding.ofOperation, Handler.implements] using missing)
  have bare : ({} : Handler σ).invocation? operation = none := by cases operation <;> rfl
  simp only [binding, Binding.ofOperation, Handler.implements, absent, bare, Option.getD_none,
    and_self]

/-- The path of a binding is that of an item exactly if its invocation takes an identifier. -/
theorem path_binding (resource : BoundResource σ) (operation : Operation) :
    (resource.binding operation).path =
      if (resource.binding operation).invocation.takesIdentifier then resource.template.itemPath
      else resource.template.collectionPath := by
  rw [(resource.takes_binding operation).1]
  rfl

/-- Bindings of a resource with the same method and path have the same operation. -/
theorem eq_of_method_of_path {resource : BoundResource σ} {one other : Operation}
    (method : (resource.binding one).method = (resource.binding other).method)
    (path : (resource.binding one).path = (resource.binding other).path) : one = other := by
  refine Operation.eq_of_method_of_targetsItem method ?_
  have apart := resource.sound.itemPath_ne_collectionPath
  rw [path_binding, path_binding, (resource.takes_binding one).1,
    (resource.takes_binding other).1] at path
  cases item : one.targetsItem <;> cases otherItem : other.targetsItem
  · rfl
  · rw [item, otherItem] at path
    exact absurd path.symm apart
  · rw [item, otherItem] at path
    exact absurd path apart
  · rfl

/-- The bindings of a resource are complete. -/
theorem complete_bindings (resource : BoundResource σ) :
    Complete resource.template resource.handler resource.policy resource.bindings := by
  have each {property : Binding σ → Prop}
      (holds : ∀ operation, property (resource.binding operation)) (binding : Binding σ)
      (member : binding ∈ resource.bindings) : property binding := by
    obtain ⟨operation, rfl⟩ := mem_bindings.mp member
    exact holds operation
  constructor
  case operations => rfl
  case distinct =>
    rw [bindings, List.map_map]
    refine List.Nodup.map_on ?_ (by decide)
    intro first _ second _ same
    exact eq_of_method_of_path (congrArg Prod.fst same) (congrArg Prod.snd same)
  case notPut =>
    refine each fun operation => ?_
    rw [method_binding]
    cases operation <;> decide
  case apart => exact resource.sound.itemPath_ne_collectionPath
  case path => exact each resource.path_binding
  case implemented => exact each resource.implemented_binding_iff
  case own => exact each fun operation own provided => (binding_of_provides provided).2
  case standIn =>
    refine each fun operation missing => ?_
    rw [(binding_of_not_implemented missing).1]
    exact Invocation.onlyFails_notImplemented operation _
  case unheld =>
    refine each fun operation missing => ?_
    let bare : BoundResource σ := { resource with handler := {} }
    refine ⟨bare.bindings, ofResource_eq_ok_iff.mpr ⟨bare, rfl, rfl, rfl, rfl⟩, ?_⟩
    exact mem_bindings.mpr ⟨operation, (binding_of_not_implemented missing).2⟩

end BoundResource

/-! ## Requests -/

/-- What stands on the route of an item names one, and nothing else does. -/
theorem Lane.targetsItem_of_mem {lane : Lane} {operation : Operation}
    (listed : operation ∈ lane.operations) : operation.targetsItem = decide (lane = .item) := by
  revert operation
  cases lane <;> decide

/-- Where the path of a request leads that reaches a binding of a registry, by the inputs of its
invocation. -/
structure Binding.Placed (binding : Binding σ) (registry : Registry σ) (path : List Char)
    (captures : Route.Captures) : Prop where
  /-- An identifier is taken from a segment behind the path of the collection. -/
  item : binding.invocation.takesIdentifier = true → ∃ value,
    path = binding.template.routeCollection.toList ++ '/' :: value ∧ value ≠ [] ∧ '/' ∉ value ∧
      captures = [(binding.template.identifierName.toList, value)]
  /-- The path is that of no collection then, whichever resource it may belong to. -/
  uncollected : binding.invocation.takesIdentifier = true → ∀ other ∈ registry.bindings,
    other.invocation.takesIdentifier = false → String.ofList path ∉ other.routes
  collection : binding.invocation.takesIdentifier = false →
    String.ofList path ∈ binding.routes ∧ captures = []

/-- The routes of a binding without an identifier are those of the collection. -/
theorem BoundResource.mem_routes_binding_iff {resource : BoundResource σ} {operation : Operation}
    (whole : operation.targetsItem = false) (path : List Char) :
    String.ofList path ∈ (resource.binding operation).routes ↔ resource.IsCollection path := by
  have routes : (resource.binding operation).routes =
      [resource.template.routeCollection ++ "/", resource.template.routeCollection] := by
    simp only [Binding.routes, operation_binding, whole]
    rfl
  rw [routes, List.mem_pair, ← String.toList_inj, ← String.toList_inj, String.toList_append,
    String.toList_ofList, resource.sound.toList_routeCollection, or_comm]
  rfl

/-- What a request reaches through a router lies where the path of the request leads. -/
theorem Router.Lists.placed_of_binding? {router : Router σ} {resources : List (BoundResource σ)}
    {registry : Registry σ} (lists : router.Lists resources)
    (held : registry.bindings = resources.flatMap BoundResource.bindings)
    (distinct : resources.Pairwise fun first second => first.base ≠ second.base)
    {request : Request} {binding : Binding σ} {captures : Route.Captures}
    (bound : router.binding? request = some (binding, captures)) :
    binding.Placed registry request.uri.path captures := by
  obtain ⟨bindings, found, reached⟩ := exists_route_of_binding? bound
  obtain ⟨place, leads, _⟩ := Place.existsUnique_leads distinct request.uri.path
  cases leads with
  | @collection resource member named =>
    rw [lists.find?_collection distinct member named] at found
    cases found
    obtain ⟨operation, listed, rfl⟩ := List.mem_map.mp (mem_of_endpoint reached)
    have whole : operation.targetsItem = false := Lane.targetsItem_of_mem listed
    have plain := (resource.takes_binding operation).1.trans whole
    constructor
    case item => exact fun taken => absurd taken (Bool.eq_false_iff.mp plain)
    case uncollected => exact fun taken => absurd taken (Bool.eq_false_iff.mp plain)
    case collection =>
      exact fun _ => ⟨(BoundResource.mem_routes_binding_iff whole _).mpr named, rfl⟩
  | @item resource value member named free =>
    rw [lists.find?_item distinct member named free] at found
    cases found
    obtain ⟨operation, listed, rfl⟩ := List.mem_map.mp (mem_of_endpoint reached)
    have single : operation.targetsItem = true := Lane.targetsItem_of_mem listed
    have taken := (resource.takes_binding operation).1.trans single
    constructor
    case item =>
      obtain ⟨path, nonempty, segment⟩ := named
      refine fun _ => ⟨value, ?_, nonempty, segment, rfl⟩
      rw [path]
      exact congrArg (· ++ '/' :: value) resource.sound.toList_routeCollection.symm
    case uncollected =>
      intro _ other present plain inRoutes
      rw [held] at present
      obtain ⟨owner, isOwner, inBlock⟩ := List.mem_flatMap.mp present
      obtain ⟨otherOperation, rfl⟩ := BoundResource.mem_bindings.mp inBlock
      have whole := (owner.takes_binding otherOperation).1.symm.trans plain
      exact free owner isOwner ((BoundResource.mem_routes_binding_iff whole _).mp inRoutes)
    case collection => exact fun plain => absurd taken (Bool.eq_false_iff.mp plain)
  | nowhere free unnamed =>
    rw [lists.find?_nowhere free unnamed] at found
    cases found

/-- Binding a resource fails with the fault of its template, else with that of a policy that leaves
writes open, and otherwise yields complete bindings. Whatever has been offered to a server, the
requests that reach a binding are placed as the inputs of its invocation say. -/
theorem Binding.bindings_complete (text : String) (handler : Handler σ) (policy : AccessPolicy) :
    (∀ template, Template.validate text = .ok template → policy.writes.roles ≠ [] →
      template.text = text ∧
        ∃ bindings, ofResource text handler policy = .ok bindings ∧
          Complete template handler policy bindings) ∧
    (∀ fault, Template.validate text = .error fault →
      ofResource text handler policy = .error fault) ∧
    (∀ template, Template.validate text = .ok template → policy.writes.roles = [] →
      ofResource text handler policy = .error (.noWriteRoles text)) ∧
    ∀ (offers : List (Offer σ)) (engine : Engine σ) (cache : CacheRule) (router : Router σ),
      Router.build? (Registration.run offers).registry engine cache = some router →
        ∀ request binding captures, router.binding? request = some (binding, captures) →
          binding.Placed (Registration.run offers).registry request.uri.path captures := by
  refine ⟨?bound, ?faulty, ?opened, ?routed⟩
  case bound =>
    intro template valid closed
    obtain ⟨rfl, _⟩ := Template.sound_of_validate valid
    let resource : BoundResource σ :=
      ⟨template, handler, policy, valid, List.isEmpty_eq_false_iff.mpr closed⟩
    exact ⟨rfl, resource.bindings,
      BoundResource.ofResource_eq_ok_iff.mpr ⟨resource, rfl, rfl, rfl, rfl⟩,
      resource.complete_bindings⟩
  case faulty =>
    intro fault invalid
    simp only [ofResource, invalid, bind, Except.bind]
  case opened =>
    intro template valid opened
    simp only [ofResource, valid, AccessPolicy.check, AccessRule.isOpen, opened, bind, Except.bind,
      List.isEmpty_nil, if_true]
  case routed =>
    intro offers engine cache router built request binding captures bound
    obtain ⟨resources, holds⟩ := Registration.exists_holds_run offers
    have lists := Router.lists_of_build? holds.bindings holds.distinct built
    exact lists.placed_of_binding? holds.bindings holds.distinct bound

example :
    (Binding.ofResource "levels/<level-id>" ({} : Handler Unit) (.writtenBy ["W"])).toOption.map
        (·.map fun binding => (binding.method.name, binding.path, binding.implemented)) =
      some [("GET", "/levels/", false), ("GET", "/levels/<level-id>", false),
        ("POST", "/levels/", false), ("PATCH", "/levels/<level-id>", false),
        ("DELETE", "/levels/<level-id>", false)] := by
  decide +kernel

end Sluice.Resource
