import Mathlib.Data.List.Perm.Basic
import Sluice.Proofs.Resource.Places

/-!
# The order of offers

A series of offers is accepted as a whole exactly if each of them is sound by itself and no two have
the same literal segments, `Registration.allAccepted_iff`. Neither depends on the order of the series.
What a router of the accepted resources finds for a path is settled by the place to which the path
leads among them, so it depends on which they are and not on the order in which they came.
-/

namespace Sluice.Resource

variable {σ : Type}

/-! ## Series of offers -/

/-- Whether an offer is sound by itself: its template is, and its writes need a role. -/
def Offer.IsSound (offer : Offer σ) : Prop :=
  (∃ template, Template.validate offer.text = .ok template) ∧ offer.policy.writes.roles ≠ []

namespace Registration

/-- Whether each offer of a series is accepted when its turn comes. -/
def AllAccepted (offers : List (Offer σ)) : Prop :=
  ∀ earlier offer later, offers = earlier ++ offer :: later →
    ∃ outcome, offer.registered (run earlier).registry = .ok outcome

theorem run_concat (offers : List (Offer σ)) (offer : Offer σ) :
    run (offers ++ [offer]) = (run offers).next offer := by
  simp only [run, List.foldl_append, List.foldl_cons, List.foldl_nil]

/-- A series is accepted with one more offer exactly if it is accepted and then the offer is. -/
theorem allAccepted_concat_iff (offers : List (Offer σ)) (offer : Offer σ) :
    AllAccepted (offers ++ [offer]) ↔
      AllAccepted offers ∧ ∃ outcome, offer.registered (run offers).registry = .ok outcome := by
  constructor
  · intro accepted
    refine ⟨fun earlier other later split => ?_, accepted offers offer [] rfl⟩
    exact accepted earlier other (later ++ [offer]) (by simp [split])
  · rintro ⟨accepted, last⟩ earlier other later split
    rcases List.eq_nil_or_concat later with rfl | ⟨front, final, rfl⟩
    · obtain ⟨rfl, same⟩ := List.append_inj' split rfl
      obtain rfl := List.singleton_inj.mp same
      exact last
    · refine accepted earlier other front ?_
      have regrouped : earlier ++ other :: (front ++ [final]) =
          (earlier ++ other :: front) ++ [final] := by simp
      rw [List.concat_eq_append, regrouped] at split
      exact (List.append_inj' split rfl).1

/-- Of a series that is accepted as a whole, the accepted offers are all. -/
theorem accepted_run {offers : List (Offer σ)} (all : AllAccepted offers) :
    (run offers).accepted = offers := by
  induction offers using List.reverseRecOn with
  | nil => rfl
  | append_singleton earlier last ih =>
    obtain ⟨before, outcome, accepted⟩ := (allAccepted_concat_iff earlier last).mp all
    rw [run_concat]
    simp only [next, accepted, ih before]

/-- A series is accepted as a whole exactly if each offer is sound and no two have the same literal
segments. -/
theorem allAccepted_iff (offers : List (Offer σ)) :
    AllAccepted offers ↔
      (∀ offer ∈ offers, offer.IsSound) ∧
        offers.Pairwise fun first second => first.literals ≠ second.literals := by
  induction offers using List.reverseRecOn with
  | nil => simp [AllAccepted]
  | append_singleton earlier last ih =>
    obtain ⟨resources, holds⟩ := exists_holds_run earlier
    rw [allAccepted_concat_iff, holds.registered_ok_iff]
    constructor
    · rintro ⟨before, valid, closed, free⟩
      rw [accepted_run before] at free
      obtain ⟨sound, apart⟩ := ih.mp before
      refine ⟨fun offer member => ?_, List.pairwise_append.mpr ⟨apart, List.pairwise_singleton .., ?_⟩⟩
      · rcases List.mem_append.mp member with isEarlier | isLast
        · exact sound offer isEarlier
        · obtain rfl := List.mem_singleton.mp isLast
          exact ⟨valid, closed⟩
      · intro offer isEarlier other isLast
        obtain rfl := List.mem_singleton.mp isLast
        exact free offer isEarlier
    · rintro ⟨sound, apart⟩
      obtain ⟨before, _, free⟩ := List.pairwise_append.mp apart
      have accepted : AllAccepted earlier :=
        ih.mpr ⟨fun offer member => sound offer (List.mem_append_left _ member), before⟩
      obtain ⟨valid, closed⟩ := sound last (List.mem_append_right _ List.mem_cons_self)
      refine ⟨accepted, valid, closed, fun offer member => ?_⟩
      rw [accepted_run accepted] at member
      exact free offer member last List.mem_cons_self

/-- Whether a series is accepted as a whole does not depend on its order. -/
theorem allAccepted_of_perm {offers others : List (Offer σ)} (reordered : offers.Perm others) :
    AllAccepted offers ↔ AllAccepted others := by
  have apart := reordered.pairwise_iff
    (R := fun first second : Offer σ => first.literals ≠ second.literals) Ne.symm
  simp only [allAccepted_iff, reordered.mem_iff, apart]

end Registration

/-! ## Routers of the same resources -/

/-- The offer that a bound resource was made of tells it from all others. -/
theorem BoundResource.offer_injective :
    Function.Injective (BoundResource.offer : BoundResource σ → Offer σ) := by
  rintro ⟨template, handler, policy, checked, guarded⟩ ⟨other, _, _, otherChecked, _⟩ same
  obtain ⟨text, rfl, rfl⟩ := Offer.mk.inj same
  rw [text, otherChecked] at checked
  obtain rfl := Except.ok.inj checked
  rfl

/-- Routers that list the same resources find the same for every path. -/
theorem Router.Lists.find?_eq {first second : Router σ} {resources : List (BoundResource σ)}
    (lists : first.Lists resources) (otherLists : second.Lists resources)
    (distinct : resources.Pairwise fun one other => one.base ≠ other.base) (path : List Char) :
    first.table.find? path = second.table.find? path := by
  obtain ⟨place, leads, _⟩ := Place.existsUnique_leads distinct path
  cases leads with
  | collection member named =>
    rw [lists.find?_collection distinct member named,
      otherLists.find?_collection distinct member named]
  | item member named free =>
    rw [lists.find?_item distinct member named free,
      otherLists.find?_item distinct member named free]
  | nowhere free unnamed =>
    rw [lists.find?_nowhere free unnamed, otherLists.find?_nowhere free unnamed]

/-- A router has the engine and the rule for caching that it was built with. -/
theorem Router.parts_of_build? {registry : Registry σ} {engine : Engine σ} {cache : CacheRule}
    {router : Router σ} (built : build? registry engine cache = some router) :
    router.engine = engine ∧ router.cache = cache := by
  obtain ⟨table, _, rfl⟩ := Option.map_eq_some_iff.mp built
  exact ⟨rfl, rfl⟩

/-- What a router does with requests depends on its table only by what is found there. -/
theorem Router.serve_eq_of_find? {first second : Router σ} (engine : first.engine = second.engine)
    (cache : first.cache = second.cache)
    (found : ∀ path, first.table.find? path = second.table.find? path) :
    first.serve = second.serve := by
  funext request incident shared
  simp only [serve, engine, cache, found]

/-- Registries of the same resources, in any order, make routers that serve alike, or none. -/
theorem Router.serve_build?_of_perm {registry other : Registry σ}
    {resources others : List (BoundResource σ)}
    (held : registry.bindings = resources.flatMap BoundResource.bindings)
    (otherHeld : other.bindings = others.flatMap BoundResource.bindings)
    (distinct : resources.Pairwise fun first second => first.base ≠ second.base)
    (reordered : resources.Perm others) (engine : Engine σ) (cache : CacheRule) :
    (build? registry engine cache).map serve = (build? other engine cache).map serve := by
  have otherDistinct : others.Pairwise fun first second => first.base ≠ second.base :=
    (reordered.pairwise_iff Ne.symm).mp distinct
  have alike : (build? registry engine cache).isSome = (build? other engine cache).isSome := by
    rw [Bool.eq_iff_iff, isSome_build?_iff held distinct, isSome_build?_iff otherHeld otherDistinct]
    simp only [reordered.mem_iff]
  cases built : build? registry engine cache with
  | none =>
    rw [built] at alike
    have unbuilt : build? other engine cache = none := Option.not_isSome_iff_eq_none.mp (by simp [← alike])
    rw [unbuilt]
  | some router =>
    rw [built] at alike
    obtain ⟨second, otherBuilt⟩ := Option.isSome_iff_exists.mp alike.symm
    have lists := lists_of_build? held distinct built
    have otherLists : second.Lists resources := fun row => by
      rw [mem_table_iff otherHeld otherDistinct otherBuilt]
      simp only [reordered.mem_iff]
    obtain ⟨sameEngine, sameCache⟩ := parts_of_build? built
    obtain ⟨otherEngine, otherCache⟩ := parts_of_build? otherBuilt
    rw [otherBuilt, Option.map_some, Option.map_some,
      serve_eq_of_find? (sameEngine.trans otherEngine.symm) (sameCache.trans otherCache.symm)
        (lists.find?_eq otherLists distinct)]

namespace Registration

/-- A series of offers is accepted as a whole in every order or in none; and then routers of what was
registered are built in every order or in none, and serve every request alike. -/
theorem order_immaterial {offers others : List (Offer σ)} (reordered : offers.Perm others) :
    (AllAccepted offers ↔ AllAccepted others) ∧
      (AllAccepted offers → ∀ (engine : Engine σ) (cache : CacheRule),
        (Router.build? (run offers).registry engine cache).map Router.serve =
          (Router.build? (run others).registry engine cache).map Router.serve) := by
  have alike := allAccepted_of_perm reordered
  refine ⟨alike, fun accepted engine cache => ?_⟩
  obtain ⟨resources, holds⟩ := exists_holds_run offers
  obtain ⟨others', otherHolds⟩ := exists_holds_run others
  have sameOffers : (resources.map BoundResource.offer).Perm (others'.map BoundResource.offer) := by
    rw [holds.accepted, otherHolds.accepted, accepted_run accepted,
      accepted_run (alike.mp accepted)]
    exact reordered
  have sameResources := (List.map_perm_map_iff BoundResource.offer_injective).mp sameOffers
  exact Router.serve_build?_of_perm holds.bindings otherHolds.bindings holds.distinct sameResources
    engine cache

/-- Two resources that share a path, in both orders: the routers that are built of them serve alike. -/
theorem overlapping_order_immaterial :
    let outer : Offer Unit := ⟨"/a/\x7bx\x7d", {}, .writtenBy ["W"]⟩
    let inner : Offer Unit := ⟨"/a/b/\x7by\x7d", {}, .writtenBy ["W"]⟩
    let engine : Engine Unit := ⟨.checkedByLease fun _ => .ok (), .derived, ""⟩
    [outer, inner].Perm [inner, outer] ∧ AllAccepted [outer, inner] ∧ AllAccepted [inner, outer] ∧
      ∃ router other, Router.build? (run [outer, inner]).registry engine .standard = some router ∧
        Router.build? (run [inner, outer]).registry engine .standard = some other ∧
        router.serve = other.serve := by
  intro outer inner engine
  have reordered : [outer, inner].Perm [inner, outer] := .swap inner outer []
  have closed : (AccessPolicy.writtenBy ["W"]).writes.roles ≠ [] := by decide +kernel
  have sound : outer.IsSound ∧ inner.IsSound := by
    constructor
    · exact ⟨⟨⟨"/a/\x7bx\x7d", "/a/", "\x7bx\x7d", "x"⟩, by decide +kernel⟩, closed⟩
    · exact ⟨⟨⟨"/a/b/\x7by\x7d", "/a/b/", "\x7by\x7d", "y"⟩, by decide +kernel⟩, closed⟩
  have apart : outer.literals ≠ inner.literals := by decide +kernel
  have accepted : AllAccepted [outer, inner] :=
    (allAccepted_iff _).mpr ⟨by simp [sound], by simp [apart]⟩
  obtain ⟨alike, served⟩ := order_immaterial reordered
  have serves := served accepted engine .standard
  have builds : (Router.build? (run [outer, inner]).registry engine .standard).isSome = true := by
    decide +kernel
  obtain ⟨router, built⟩ := Option.isSome_iff_exists.mp builds
  rw [built, Option.map_some, eq_comm, Option.map_eq_some_iff] at serves
  obtain ⟨other, otherBuilt, same⟩ := serves
  exact ⟨reordered, accepted, alike.mp accepted, router, other, built, otherBuilt, same.symm⟩

end Registration

end Sluice.Resource
