import Sluice.Proofs.Resource.Segments
import Sluice.Resource.Binding

/-!
# Bound resources

A resource whose template and policy have passed their checks, with the five bindings that come of
it. Every list of bindings that `Binding.ofResource` yields is that of a bound resource, so what is
proved here holds of everything that a registry can contain.

The keys under which bindings are compared are separated by the colon: it stands in the key of an
item and cannot stand in the path of a collection, whose segments are literal. Hence `clashes_iff`:
two bindings clash exactly if their resources have the same collection and their operation is the
same.
-/

namespace Sluice.Resource

variable {σ : Type}

/-- An operation is told by its method and by whether it names an item. -/
theorem Operation.eq_of_method_of_targetsItem {one other : Operation}
    (method : one.method = other.method) (alike : one.targetsItem = other.targetsItem) :
    one = other := by
  revert method alike
  cases one <;> cases other <;> decide

/-- A resource whose template has been checked and whose writes need a role. -/
structure BoundResource (σ : Type) where
  template : Template
  handler : Handler σ
  policy : AccessPolicy
  checked : Template.validate template.text = .ok template
  guarded : policy.writes.isOpen = false

namespace BoundResource

/-- The binding of one operation of a resource. -/
def binding (resource : BoundResource σ) (operation : Operation) : Binding σ :=
  .ofOperation resource.template resource.handler resource.policy operation

/-- The bindings of a resource, one for each operation. -/
def bindings (resource : BoundResource σ) : List (Binding σ) :=
  Operation.all.map resource.binding

/-- The path of the collection. -/
def base (resource : BoundResource σ) : List Char :=
  resource.template.base

theorem sound (resource : BoundResource σ) : resource.template.Sound :=
  (Template.sound_of_validate resource.checked).2

/-- The writes of a bound resource need a role. -/
theorem roles_ne_nil (resource : BoundResource σ) : resource.policy.writes.roles ≠ [] :=
  List.isEmpty_eq_false_iff.mp resource.guarded

@[simp] theorem operation_binding (resource : BoundResource σ) (operation : Operation) :
    (resource.binding operation).operation = operation := rfl

@[simp] theorem method_binding (resource : BoundResource σ) (operation : Operation) :
    (resource.binding operation).method = operation.method := rfl

/-- Each binding of a resource is that of an operation. -/
theorem mem_bindings {resource : BoundResource σ} {binding : Binding σ} :
    binding ∈ resource.bindings ↔ ∃ operation, binding = resource.binding operation := by
  simp only [bindings, List.mem_map]
  constructor
  · rintro ⟨operation, _, rfl⟩
    exact ⟨operation, rfl⟩
  · rintro ⟨operation, rfl⟩
    exact ⟨operation, operation.mem_all, rfl⟩

/-- Resources have the same route of their collections exactly if these have the same path. -/
theorem routeCollection_eq_iff (first second : BoundResource σ) :
    first.template.routeCollection = second.template.routeCollection ↔
      first.base = second.base := by
  rw [← String.toList_inj, first.sound.toList_routeCollection, second.sound.toList_routeCollection]
  rfl

/-- The operation decides the inputs that its binding takes, implemented or not. -/
theorem takes_binding (resource : BoundResource σ) (operation : Operation) :
    (resource.binding operation).invocation.takesIdentifier = operation.targetsItem ∧
      (resource.binding operation).invocation.takesPayload = operation.takesPayload := by
  cases found : resource.handler.invocation? operation with
  | none =>
    simp only [binding, Binding.ofOperation, found, Option.getD_none]
    cases operation <;> exact ⟨rfl, rfl⟩
  | some invocation =>
    simp only [binding, Binding.ofOperation, found, Option.getD_some]
    cases operation with
    | fetchOne | fetchAll | create | update | delete =>
      simp only [Handler.invocation?, Option.map_eq_some_iff] at found
      obtain ⟨run, _, rfl⟩ := found
      exact ⟨rfl, rfl⟩

/-! ## Binding a resource -/

/-- Binding succeeds with the bindings of a bound resource, and only with these. -/
theorem ofResource_eq_ok_iff {text : String} {handler : Handler σ} {policy : AccessPolicy}
    {bindings : List (Binding σ)} :
    Binding.ofResource text handler policy = .ok bindings ↔
      ∃ resource : BoundResource σ, resource.template.text = text ∧ resource.handler = handler ∧
        resource.policy = policy ∧ bindings = resource.bindings := by
  constructor
  · intro bound
    simp only [Binding.ofResource, bind, Except.bind] at bound
    split at bound
    · cases bound
    · next template checked =>
      split at bound
      · cases bound
      · next passed =>
        obtain rfl := Except.ok.inj bound
        obtain ⟨rfl, _⟩ := Template.sound_of_validate checked
        have guarded : policy.writes.isOpen = false := by
          simp only [AccessPolicy.check] at passed
          split at passed
          · cases passed
          · next closed => simpa using closed
        exact ⟨⟨template, handler, policy, checked, guarded⟩, rfl, rfl, rfl, rfl⟩
  · rintro ⟨resource, rfl, rfl, rfl, rfl⟩
    simp only [Binding.ofResource, resource.checked, AccessPolicy.check, resource.guarded, bind,
      Except.bind, Bool.false_eq_true, if_false]
    rfl

/-! ## Keys -/

/-- The key of a binding: the path of the collection, with a mark behind it for an item. -/
theorem toList_routeKey (resource : BoundResource σ) (operation : Operation) :
    (resource.binding operation).routeKey.toList =
      resource.base ++ if operation.targetsItem then ['/', ':'] else [] := by
  have collection : resource.template.routeCollection.toList = resource.base :=
    resource.sound.toList_routeCollection
  change (if operation.targetsItem then resource.template.routeCollection ++ "/:"
    else resource.template.routeCollection).toList = _
  split <;> simp [collection]

/-- The path of a collection contains no colon. -/
theorem colon_not_mem_base (resource : BoundResource σ) : ':' ∉ resource.base :=
  resource.sound.not_mem_base rfl

/-- Keys agree exactly if the collections do and both or neither are keys of items. -/
theorem routeKey_eq_iff (first second : BoundResource σ) (one other : Operation) :
    (first.binding one).routeKey = (second.binding other).routeKey ↔
      first.base = second.base ∧ one.targetsItem = other.targetsItem := by
  rw [← String.toList_inj, toList_routeKey, toList_routeKey]
  have plainFirst := first.colon_not_mem_base
  have plainSecond := second.colon_not_mem_base
  generalize one.targetsItem = item, other.targetsItem = otherItem
  constructor
  · intro same
    have marked : (':' ∈ first.base ++ if item then ['/', ':'] else []) =
        (':' ∈ second.base ++ if otherItem then ['/', ':'] else []) := by rw [same]
    -- The colon shows which of the keys are keys of items.
    have alike : item = otherItem := by
      cases item <;> cases otherItem <;> simp [plainFirst, plainSecond] at marked ⊢
    subst alike
    exact ⟨List.append_cancel_right same, rfl⟩
  · rintro ⟨same, alike⟩
    rw [same, alike]

/-- Bindings of resources clash exactly if the collections agree and the operation is the same. -/
theorem clashes_iff (first second : BoundResource σ) (one other : Operation) :
    (first.binding one).clashes (second.binding other) = true ↔
      first.base = second.base ∧ one = other := by
  simp only [Binding.clashes, Bool.and_eq_true, beq_iff_eq, routeKey_eq_iff, method_binding]
  constructor
  · rintro ⟨method, same, alike⟩
    exact ⟨same, Operation.eq_of_method_of_targetsItem method alike⟩
  · rintro ⟨same, rfl⟩
    exact ⟨rfl, same, rfl⟩

end BoundResource

end Sluice.Resource
