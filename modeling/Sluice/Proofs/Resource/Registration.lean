import Sluice.Proofs.Resource.BoundResource

/-!
# Registration

A registry is filled by a series of offers, each of which is accepted with all of its bindings or
refused. `Registration.Holds` is what every series preserves: the registry holds the bindings of the
accepted resources, in order, and no two of these resources have the same collection. A clash is
always found at the first binding of an offer, so no part of a resource is ever added and the fault
always names the collection.
-/

namespace Sluice.Resource

variable {σ : Type}

/-- A resource as it is offered to a registry. -/
structure Offer (σ : Type) where
  text : String
  handler : Handler σ
  policy : AccessPolicy

namespace Offer

/-- The segments of the template in front of its identifier. -/
def literals (offer : Offer σ) : List (List Char) :=
  (Template.segmentChars offer.text.toList).dropLast

/-- What comes of an offer to a registry: the registry afterwards and what was reported, or a fault.
-/
def registered (offer : Offer σ) (registry : Registry σ) :
    Except StartError (Registry σ × List Log.Event) :=
  registry.register offer.text offer.handler offer.policy

end Offer

/-- The offer that a bound resource was made of. -/
def BoundResource.offer (resource : BoundResource σ) : Offer σ :=
  ⟨resource.template.text, resource.handler, resource.policy⟩

/-- What a series of offers has led to. -/
structure Registration (σ : Type) where
  registry : Registry σ
  /-- The offers that were accepted, in order. -/
  accepted : List (Offer σ)
  /-- What was reported. -/
  reported : List Log.Event

namespace Registration

/-- Nothing has been offered. -/
def start : Registration σ := ⟨.empty, [], []⟩

/-- One more offer. A refusal leaves everything as it is. -/
def next (state : Registration σ) (offer : Offer σ) : Registration σ :=
  match offer.registered state.registry with
  | .ok (registry, events) =>
    ⟨registry, state.accepted ++ [offer], state.reported ++ events⟩
  | .error _ => state

/-- A series of offers to an empty registry. -/
def run (offers : List (Offer σ)) : Registration σ :=
  offers.foldl next start

end Registration

/-! ## One offer -/

namespace Registry

variable {registry : Registry σ} {resources : List (BoundResource σ)}

/-- A binding clashes with one of a registry exactly if its collection is taken. -/
theorem any_clashes_iff (held : registry.bindings = resources.flatMap BoundResource.bindings)
    (resource : BoundResource σ) (operation : Operation) :
    (registry.bindings.any (·.clashes (resource.binding operation))) = true ↔
      ∃ earlier ∈ resources, earlier.base = resource.base := by
  simp only [held, List.any_eq_true, List.mem_flatMap]
  constructor
  · rintro ⟨binding, ⟨earlier, member, inBlock⟩, clash⟩
    obtain ⟨other, rfl⟩ := BoundResource.mem_bindings.mp inBlock
    exact ⟨earlier, member, ((earlier.clashes_iff resource other operation).mp clash).1⟩
  · rintro ⟨earlier, member, same⟩
    exact ⟨earlier.binding operation,
      ⟨earlier, member, BoundResource.mem_bindings.mpr ⟨operation, rfl⟩⟩,
      (earlier.clashes_iff resource operation operation).mpr ⟨same, rfl⟩⟩

/-- A resource whose collection is free clashes with nothing. -/
theorem clash?_of_fresh (held : registry.bindings = resources.flatMap BoundResource.bindings)
    {resource : BoundResource σ} (fresh : ∀ earlier ∈ resources, earlier.base ≠ resource.base) :
    registry.clash? resource.bindings = none := by
  simp only [clash?, Option.map_eq_none_iff, List.find?_eq_none]
  intro binding member clash
  obtain ⟨operation, rfl⟩ := BoundResource.mem_bindings.mp member
  obtain ⟨earlier, present, same⟩ := (any_clashes_iff held resource operation).mp clash
  exact fresh earlier present same

/-- A resource whose collection is taken clashes at its first binding. -/
theorem clash?_of_taken (held : registry.bindings = resources.flatMap BoundResource.bindings)
    {resource : BoundResource σ} (taken : ∃ earlier ∈ resources, earlier.base = resource.base) :
    registry.clash? resource.bindings =
      some (.duplicateBinding "GET" resource.template.collectionPath) := by
  have first := (any_clashes_iff held resource .fetchAll).mpr taken
  simp only [clash?, BoundResource.bindings, Operation.all, List.map_cons, List.find?_cons, first]
  rfl

end Registry

namespace Offer

variable {registry : Registry σ} {resources : List (BoundResource σ)}

/-- An offer has a faulty template, or leaves its writes open, or is that of a bound resource. -/
theorem unsound_or_bound (offer : Offer σ) :
    (∃ fault, Template.validate offer.text = .error fault) ∨
      (∃ template, Template.validate offer.text = .ok template ∧
        offer.policy.writes.isOpen = true) ∨
      ∃ resource : BoundResource σ, resource.offer = offer := by
  cases checked : Template.validate offer.text with
  | error fault => exact .inl ⟨fault, rfl⟩
  | ok template =>
    obtain ⟨same, _⟩ := Template.sound_of_validate checked
    cases guarded : offer.policy.writes.isOpen with
    | true => exact .inr (.inl ⟨template, rfl, rfl⟩)
    | false =>
      refine .inr (.inr ⟨⟨template, offer.handler, offer.policy, same ▸ checked, guarded⟩, ?_⟩)
      simp only [BoundResource.offer, same]

/-- A fault of the template counts before anything else. -/
theorem registered_of_invalid {offer : Offer σ} {fault : StartError}
    (invalid : Template.validate offer.text = .error fault) :
    offer.registered registry = .error fault := by
  simp only [registered, Registry.register, Binding.ofResource, invalid, bind, Except.bind]

/-- With a sound template, open writes are refused before clashes are looked for. -/
theorem registered_of_open {offer : Offer σ} {template : Template}
    (valid : Template.validate offer.text = .ok template)
    (opened : offer.policy.writes.isOpen = true) :
    offer.registered registry = .error (.noWriteRoles offer.text) := by
  simp only [registered, Registry.register, Binding.ofResource, valid, AccessPolicy.check, opened,
    bind, Except.bind, if_true]

/-- A bound resource is accepted with all of its bindings if its collection is free. -/
theorem registered_of_fresh (held : registry.bindings = resources.flatMap BoundResource.bindings)
    {resource : BoundResource σ} (fresh : ∀ earlier ∈ resources, earlier.base ≠ resource.base) :
    resource.offer.registered registry =
      .ok (⟨registry.bindings ++ resource.bindings⟩, resource.bindings.map Binding.boundEvent) := by
  have bound : Binding.ofResource resource.template.text resource.handler resource.policy =
      .ok resource.bindings :=
    BoundResource.ofResource_eq_ok_iff.mpr ⟨resource, rfl, rfl, rfl, rfl⟩
  simp only [registered, Registry.register, BoundResource.offer, bound,
    Registry.clash?_of_fresh held fresh, bind, Except.bind]
  rfl

/-- A bound resource whose collection is taken is refused with the name of the collection. -/
theorem registered_of_taken (held : registry.bindings = resources.flatMap BoundResource.bindings)
    {resource : BoundResource σ} (taken : ∃ earlier ∈ resources, earlier.base = resource.base) :
    resource.offer.registered registry =
      .error (.duplicateBinding "GET" resource.template.collectionPath) := by
  have bound : Binding.ofResource resource.template.text resource.handler resource.policy =
      .ok resource.bindings :=
    BoundResource.ofResource_eq_ok_iff.mpr ⟨resource, rfl, rfl, rfl, rfl⟩
  simp only [registered, Registry.register, BoundResource.offer, bound,
    Registry.clash?_of_taken held taken, bind, Except.bind]

end Offer

/-! ## A series of offers -/

namespace Registration

/-- What a series of offers leaves behind: the accepted resources with all of their bindings, no two
of them with the same collection. -/
structure Holds (state : Registration σ) (resources : List (BoundResource σ)) : Prop where
  accepted : resources.map BoundResource.offer = state.accepted
  bindings : state.registry.bindings = resources.flatMap BoundResource.bindings
  reported : state.reported = state.registry.bindings.map Binding.boundEvent
  distinct : resources.Pairwise fun first second => first.base ≠ second.base

/-- Nothing is left behind by no offer. -/
theorem holds_start : (start : Registration σ).Holds [] where
  accepted := rfl
  bindings := rfl
  reported := rfl
  distinct := .nil

/-- A refused offer changes nothing. -/
theorem next_of_error {state : Registration σ} {offer : Offer σ} {fault : StartError}
    (refused : offer.registered state.registry = .error fault) : state.next offer = state := by
  simp only [next, refused]

/-- One more offer leaves the resources behind that were there, or adds its own at the end. -/
theorem Holds.next {state : Registration σ} {resources : List (BoundResource σ)}
    (holds : state.Holds resources) (offer : Offer σ) :
    ∃ added, (state.next offer).Holds (resources ++ added) := by
  have unchanged {fault : StartError} (refused : offer.registered state.registry = .error fault) :
      ∃ added, (state.next offer).Holds (resources ++ added) :=
    ⟨[], by rwa [next_of_error refused, List.append_nil]⟩
  rcases offer.unsound_or_bound with ⟨fault, invalid⟩ | ⟨template, valid, opened⟩ | ⟨resource, rfl⟩
  · exact unchanged (Offer.registered_of_invalid invalid)
  · exact unchanged (Offer.registered_of_open valid opened)
  · by_cases taken : ∃ earlier ∈ resources, earlier.base = resource.base
    · exact unchanged (Offer.registered_of_taken holds.bindings taken)
    · have fresh : ∀ earlier ∈ resources, earlier.base ≠ resource.base :=
        fun earlier member same => taken ⟨earlier, member, same⟩
      refine ⟨[resource], ?_⟩
      simp only [Registration.next, Offer.registered_of_fresh holds.bindings fresh]
      constructor
      · rw [List.map_append, holds.accepted]
        rfl
      · simp only [List.flatMap_append, List.flatMap_singleton, holds.bindings]
      · simp only [List.map_append, holds.reported]
      · rw [List.pairwise_append]
        refine ⟨holds.distinct, List.pairwise_singleton _ _, ?_⟩
        intro earlier member last isLast
        obtain rfl := List.mem_singleton.mp isLast
        exact fresh earlier member

/-- Every series of offers leaves bound resources behind. -/
theorem exists_holds_run (offers : List (Offer σ)) :
    ∃ resources, (run offers).Holds resources := by
  have extended (state : Registration σ) (resources : List (BoundResource σ))
      (holds : state.Holds resources) : ∃ added, (offers.foldl next state).Holds added := by
    induction offers generalizing state resources with
    | nil => exact ⟨resources, holds⟩
    | cons offer later ih =>
      obtain ⟨added, held⟩ := holds.next offer
      exact ih (state.next offer) (resources ++ added) held
  exact extended start [] holds_start

namespace Holds

variable {state : Registration σ} {resources : List (BoundResource σ)}

/-- No two bindings of the resources that are left behind share both their method and their key. -/
theorem pairwise_bindings (holds : state.Holds resources) :
    state.registry.bindings.Pairwise fun first second =>
      ¬ (first.method = second.method ∧ first.routeKey = second.routeKey) := by
  have differ (first second : BoundResource σ) (one other : Operation)
      (apart : ¬ (first.base = second.base ∧ one = other)) :
      ¬ ((first.binding one).method = (second.binding other).method ∧
        (first.binding one).routeKey = (second.binding other).routeKey) := by
    rintro ⟨method, key⟩
    refine apart ((first.clashes_iff second one other).mp ?_)
    simp only [Binding.clashes, method, key, beq_self_eq_true, Bool.and_self]
  rw [holds.bindings, List.pairwise_flatMap]
  constructor
  · intro resource _
    rw [BoundResource.bindings, List.pairwise_map]
    have once : Operation.all.Pairwise (· ≠ ·) := by decide
    exact once.imp fun apart => differ resource resource _ _ fun same => apart same.2
  · refine holds.distinct.imp ?_
    intro first second apart binding inFirst other inSecond
    obtain ⟨one, rfl⟩ := BoundResource.mem_bindings.mp inFirst
    obtain ⟨two, rfl⟩ := BoundResource.mem_bindings.mp inSecond
    exact differ first second one two fun same => apart same.1

/-- The collection of a resource is taken exactly if an accepted offer has the same literal
segments. -/
theorem taken_iff (holds : state.Holds resources) (resource : BoundResource σ) :
    (∃ earlier ∈ resources, earlier.base = resource.base) ↔
      ∃ earlier ∈ state.accepted, earlier.literals = resource.offer.literals := by
  rw [← holds.accepted]
  constructor
  · rintro ⟨earlier, member, same⟩
    exact ⟨earlier.offer, List.mem_map_of_mem member,
      (earlier.sound.base_eq_iff resource.sound).mp same⟩
  · rintro ⟨offer, member, same⟩
    obtain ⟨earlier, present, rfl⟩ := List.mem_map.mp member
    exact ⟨earlier, present, (earlier.sound.base_eq_iff resource.sound).mpr same⟩

/-- An offer is accepted exactly if its template is sound, its writes need a role and no accepted
offer has the same literal segments. -/
theorem registered_ok_iff (holds : state.Holds resources) (offer : Offer σ) :
    (∃ outcome, offer.registered state.registry = .ok outcome) ↔
      (∃ template, Template.validate offer.text = .ok template) ∧
        offer.policy.writes.roles ≠ [] ∧
        ∀ earlier ∈ state.accepted, earlier.literals ≠ offer.literals := by
  rcases offer.unsound_or_bound with ⟨fault, invalid⟩ | ⟨template, valid, opened⟩ | ⟨resource, rfl⟩
  · constructor
    · rintro ⟨outcome, accepted⟩
      rw [Offer.registered_of_invalid invalid] at accepted
      cases accepted
    · rintro ⟨⟨template, valid⟩, _⟩
      rw [invalid] at valid
      cases valid
  · constructor
    · rintro ⟨outcome, accepted⟩
      rw [Offer.registered_of_open valid opened] at accepted
      cases accepted
    · rintro ⟨_, closed, _⟩
      exact absurd (List.isEmpty_iff.mp opened) closed
  · constructor
    · rintro ⟨outcome, accepted⟩
      refine ⟨⟨resource.template, resource.checked⟩, resource.roles_ne_nil, ?_⟩
      intro earlier member same
      have taken := (holds.taken_iff resource).mpr ⟨earlier, member, same⟩
      rw [Offer.registered_of_taken holds.bindings taken] at accepted
      cases accepted
    · rintro ⟨_, _, apart⟩
      refine ⟨_, Offer.registered_of_fresh holds.bindings fun earlier member same => ?_⟩
      obtain ⟨offer, accepted, alike⟩ := (holds.taken_iff resource).mp ⟨earlier, member, same⟩
      exact apart offer accepted alike

/-- The fault of a refused offer is that of its template, else that of its policy, else the clash of
its collection with that of an accepted offer. -/
theorem fault_of_refused (holds : state.Holds resources) {offer : Offer σ} {fault : StartError}
    (refused : offer.registered state.registry = .error fault) :
    Template.validate offer.text = .error fault ∨
      ∃ template, Template.validate offer.text = .ok template ∧
        (offer.policy.writes.roles = [] ∧ fault = .noWriteRoles offer.text ∨
          offer.policy.writes.roles ≠ [] ∧
            (∃ earlier ∈ state.accepted, earlier.literals = offer.literals) ∧
            fault = .duplicateBinding "GET" template.collectionPath) := by
  rcases offer.unsound_or_bound with ⟨cause, invalid⟩ | ⟨template, valid, opened⟩ | ⟨resource, rfl⟩
  · rw [Offer.registered_of_invalid invalid] at refused
    obtain rfl := Except.error.inj refused
    exact .inl invalid
  · rw [Offer.registered_of_open valid opened] at refused
    obtain rfl := Except.error.inj refused
    exact .inr ⟨template, valid, .inl ⟨List.isEmpty_iff.mp opened, rfl⟩⟩
  · by_cases taken : ∃ earlier ∈ resources, earlier.base = resource.base
    · rw [Offer.registered_of_taken holds.bindings taken] at refused
      obtain rfl := Except.error.inj refused
      exact .inr ⟨resource.template, resource.checked,
        .inr ⟨resource.roles_ne_nil, (holds.taken_iff resource).mp taken, rfl⟩⟩
    · have fresh : ∀ earlier ∈ resources, earlier.base ≠ resource.base :=
        fun earlier member same => taken ⟨earlier, member, same⟩
      rw [Offer.registered_of_fresh holds.bindings fresh] at refused
      cases refused

end Holds

/-- After any series of offers a registry holds the bindings of the accepted ones, block by block
and in order; their collections differ, no two bindings share method and key, and what was reported
is that these were bound. The next offer is accepted exactly if its template is sound, its writes
need a role and no accepted offer has the same literal segments. Otherwise nothing changes, and the
fault is that of the template, else that of the policy, else the clash of the collection. -/
theorem registration_exact (offers : List (Offer σ)) (offer : Offer σ) :
    (∃ resources : List (BoundResource σ),
      resources.map BoundResource.offer = (run offers).accepted ∧
      (run offers).registry.bindings = resources.flatMap BoundResource.bindings ∧
      (run offers).reported = (run offers).registry.bindings.map Binding.boundEvent ∧
      (resources.Pairwise fun first second =>
        first.template.routeCollection ≠ second.template.routeCollection) ∧
      (run offers).registry.bindings.Pairwise fun first second =>
        ¬ (first.method = second.method ∧ first.routeKey = second.routeKey)) ∧
    ((∃ outcome, offer.registered (run offers).registry = .ok outcome) ↔
      (∃ template, Template.validate offer.text = .ok template) ∧
        offer.policy.writes.roles ≠ [] ∧
        ∀ earlier ∈ (run offers).accepted, earlier.literals ≠ offer.literals) ∧
    ∀ fault, offer.registered (run offers).registry = .error fault →
      (run offers).next offer = run offers ∧
      (Template.validate offer.text = .error fault ∨
        ∃ template, Template.validate offer.text = .ok template ∧
          (offer.policy.writes.roles = [] ∧ fault = .noWriteRoles offer.text ∨
            offer.policy.writes.roles ≠ [] ∧
              (∃ earlier ∈ (run offers).accepted, earlier.literals = offer.literals) ∧
              fault = .duplicateBinding "GET" template.collectionPath)) := by
  obtain ⟨resources, holds⟩ := exists_holds_run offers
  refine ⟨⟨resources, holds.accepted, holds.bindings, holds.reported, ?_,
    holds.pairwise_bindings⟩, holds.registered_ok_iff offer, ?_⟩
  · exact holds.distinct.imp fun apart same =>
      apart ((BoundResource.routeCollection_eq_iff _ _).mp same)
  · intro fault refused
    exact ⟨next_of_error refused, holds.fault_of_refused refused⟩

end Registration

end Sluice.Resource
