import Sluice.Proofs.Resource.Places
import Sluice.Proofs.Resource.Stages

/-!
# Recorded operations

Which operations of its resources a server calls is seen with handlers that record it,
`Handler.recording`: they keep a list of operations beside the data. Offers whose handlers record are
accepted and bound like those without, `Registration.run_recording`, and every request comes to the same
on their routes, `answerOn_recording`. What a record shows is therefore true of the resources as they
are.
-/

namespace Sluice.Resource

variable {σ : Type}

/-! ## Handlers -/

/-- A handler that records which of its operations are called. -/
def Handler.recording (handler : Handler σ) : Handler (σ × List Operation) where
  fetchOne := handler.fetchOne.map fun run context identifier =>
    .recording [.fetchOne] (run context identifier)
  fetchAll := handler.fetchAll.map fun run context filters =>
    .recording [.fetchAll] (run context filters)
  create := handler.create.map fun run context payload =>
    .recording [.create] (run context payload)
  update := handler.update.map fun run context identifier payload =>
    .recording [.update] (run context identifier payload)
  delete := handler.delete.map fun run context identifier =>
    .recording [.delete] (run context identifier)

/-- Nothing is recorded of a failure that leaves the data alone. -/
theorem Action.recording_fail {ρ : Type} (failure : Failure) :
    (fail failure : Action σ).recording ([] : List ρ) = fail failure := by
  funext store
  simp only [recording, fail, pure, List.append_nil]

/-- Nothing is recorded of a stand-in. -/
theorem Invocation.recording_notImplemented {ρ : Type} (operation : Operation) (resource : String) :
    (notImplemented operation resource : Invocation σ).recording (fun _ => ([] : List ρ)) =
      notImplemented operation resource := by
  cases operation <;> simp only [notImplemented, recording, Action.recording_fail]

/-- A handler that records implements what the handler implements, and records it. -/
theorem Handler.invocation?_recording (handler : Handler σ) (operation : Operation) :
    handler.recording.invocation? operation =
      (handler.invocation? operation).map (.recording fun _ => [operation]) := by
  cases operation <;> simp only [invocation?, recording, Option.map_map] <;> rfl

/-- An offer whose handler records its calls. -/
def Offer.recording (offer : Offer σ) : Offer (σ × List Operation) :=
  ⟨offer.text, offer.handler.recording, offer.policy⟩

/-! ## Bindings -/

namespace Binding

/-- What a binding adds to a record when it is called: a stand-in is no operation of the resource. -/
def recorded (binding : Binding σ) : List Operation :=
  if binding.implemented then [binding.operation] else []

/-- A binding that records its calls. -/
def recording (binding : Binding σ) : Binding (σ × List Operation) :=
  binding.recordingBy fun _ => binding.recorded

theorem method_recording (binding : Binding σ) : binding.recording.method = binding.method := rfl

/-- The binding of an operation of a handler that records is the binding, recording. -/
theorem ofOperation_recording (template : Template) (handler : Handler σ) (policy : AccessPolicy)
    (operation : Operation) :
    ofOperation template handler.recording policy operation =
      (ofOperation template handler policy operation).recording := by
  have invocation := handler.invocation?_recording operation
  cases implemented : handler.invocation? operation with
  | some run =>
    rw [implemented] at invocation
    simp [ofOperation, recording, recordingBy, recorded, Handler.implements, implemented, invocation]
  | none =>
    rw [implemented] at invocation
    simp [ofOperation, recording, recordingBy, recorded, Handler.implements, implemented, invocation,
      Invocation.recording_notImplemented]

/-- A handler that records is bound as the handler is. -/
theorem ofResource_recording (text : String) (handler : Handler σ) (policy : AccessPolicy) :
    ofResource text handler.recording policy =
      (ofResource text handler policy).map (List.map recording) := by
  simp only [ofResource, bind, Except.bind]
  cases Template.validate text with
  | error fault => rfl
  | ok template =>
    dsimp only
    cases policy.check text with
    | error fault => rfl
    | ok _ =>
      simp only [pure, Except.pure, Except.map, List.map_map]
      exact congrArg Except.ok
        (List.map_congr_left fun operation _ => ofOperation_recording template handler policy operation)

end Binding

/-- A bound resource whose handler records its calls. -/
def BoundResource.recording (resource : BoundResource σ) : BoundResource (σ × List Operation) :=
  ⟨resource.template, resource.handler.recording, resource.policy, resource.checked,
    resource.guarded⟩

/-! ## Registries and routes -/

namespace Registry

/-- A registry whose bindings record their calls. -/
def recording (registry : Registry σ) : Registry (σ × List Operation) :=
  ⟨registry.bindings.map Binding.recording⟩

/-- The bindings of some resources that record are those of the resources, recording. -/
theorem bindings_recording {registry : Registry σ} {resources : List (BoundResource σ)}
    (held : registry.bindings = resources.flatMap BoundResource.bindings) :
    registry.recording.bindings =
      (resources.map BoundResource.recording).flatMap BoundResource.bindings := by
  have own (resource : BoundResource σ) :
      resource.recording.bindings = resource.bindings.map Binding.recording := by
    simp only [BoundResource.bindings, List.map_map]
    exact List.map_congr_left fun operation _ => Binding.ofOperation_recording ..
  simp only [recording, held, List.map_flatMap, List.flatMap_map, own]

/-- A resource that records clashes with what the resource clashes with. -/
theorem clash?_recording (registry : Registry σ) (bindings : List (Binding σ)) :
    registry.recording.clash? (bindings.map Binding.recording) = registry.clash? bindings := by
  simp only [clash?, recording, List.find?_map, List.any_map, Option.map_map]
  rfl

/-- The routes of a registry do not depend on whether calls are recorded. -/
theorem routesUnder_recording (registry : Registry σ) (mount : String) :
    registry.recording.routesUnder mount =
      (registry.routesUnder mount).map fun entry => (entry.1, entry.2.map Binding.recording) := by
  have texts : registry.recording.routeTexts = registry.routeTexts := by
    simp only [routeTexts, recording, List.flatMap_map]
    rfl
  have bindings (route : String) : registry.recording.bindingsOn route =
      (registry.bindingsOn route).map Binding.recording := by
    simp only [bindingsOn, recording, List.filter_map]
    rfl
  simp only [routesUnder, texts, bindings, List.map_map]
  rfl

end Registry

/-- An offer that records comes to what the offer comes to. -/
theorem Offer.registered_recording (offer : Offer σ) (registry : Registry σ) :
    offer.recording.registered registry.recording =
      (offer.registered registry).map fun outcome => (outcome.1.recording, outcome.2) := by
  simp only [registered, recording, Registry.register, Binding.ofResource_recording, bind, Except.bind]
  cases Binding.ofResource offer.text offer.handler offer.policy with
  | error fault => rfl
  | ok bindings =>
    simp only [Except.map, Registry.clash?_recording]
    cases registry.clash? bindings with
    | some fault => rfl
    | none =>
      simp only [pure, Except.pure, Registry.recording, List.map_append, List.map_map]
      rfl

namespace Registration

/-- A registration of offers that record. -/
def recording (state : Registration σ) : Registration (σ × List Operation) :=
  ⟨state.registry.recording, state.accepted.map Offer.recording, state.reported⟩

/-- One more offer that records leads to what the offer leads to. -/
theorem next_recording (state : Registration σ) (offer : Offer σ) :
    state.recording.next offer.recording = (state.next offer).recording := by
  simp only [next, recording, Offer.registered_recording]
  cases offer.registered state.registry with
  | error fault => rfl
  | ok outcome => simp only [Except.map, List.map_append, List.map_cons, List.map_nil]

/-- Offers that record are accepted and bound as the offers are. -/
theorem run_recording (offers : List (Offer σ)) :
    run (offers.map Offer.recording) = (run offers).recording := by
  have onward (state : Registration σ) :
      (offers.map Offer.recording).foldl next state.recording =
        (offers.foldl next state).recording := by
    induction offers generalizing state with
    | nil => rfl
    | cons offer later ih => rw [List.map_cons, List.foldl_cons, next_recording, ih, List.foldl_cons]
  exact onward start

end Registration

/-! ## Requests -/

/-- A request that has reached a binding comes to the same where calls are recorded. -/
theorem dispatchOn_recording (engine : Engine σ) (binding : Binding σ) (captures : Route.Captures)
    (request : Request) (incident : Incident) (shared : Shared (σ × List Operation)) :
    (dispatchOn engine.recording binding.recording captures request incident shared).unrecorded =
      dispatchOn engine binding captures request incident shared.unrecorded := by
  have kept : binding.recording.operation = binding.operation := rfl
  unfold dispatchOn
  rw [kept]
  split
  · cases decodeCaptures captures with
    | ok texts => exact dispatch_recording ..
    | error name => rfl
  · exact dispatch_recording ..

/-- The methods of a route are told as without a record. -/
theorem withAllow_recording (bindings : List (Binding σ)) (method : Http.Method)
    (response : Http.Response) :
    withAllow (bindings.map Binding.recording) method response =
      withAllow bindings method response := by
  have allowed : allowedMethods (bindings.map Binding.recording) = allowedMethods bindings := by
    simp only [allowedMethods, List.flatMap_map]
    rfl
  simp only [withAllow, endpoint_map Binding.method_recording, allowed]
  cases endpoint bindings method <;> rfl

/-- Every request is answered on a route as without a record. -/
theorem answerOn_recording (engine : Engine σ) (cache : CacheRule) (bindings : List (Binding σ))
    (captures : Route.Captures) (request : Request) (incident : Incident)
    (shared : Shared (σ × List Operation)) :
    (answerOn engine.recording cache (bindings.map Binding.recording) captures request incident
        shared).unrecorded =
      answerOn engine cache bindings captures request incident shared.unrecorded := by
  have offered : offeredMethods (bindings.map Binding.recording) = offeredMethods bindings := by
    simp only [offeredMethods, List.map_map]
    rfl
  simp only [answerOn, endpoint_map Binding.method_recording, offered]
  cases endpoint bindings request.method with
  | bound binding =>
    have dispatched := dispatchOn_recording engine binding captures request incident shared
    exact congrArg (fun exchange : Exchange σ =>
      { exchange with response := cache.apply request.method exchange.response }) dispatched
  | methods | unbound => rfl

end Sluice.Resource
