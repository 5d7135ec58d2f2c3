import Sluice.Proofs.Resource.Places

/-!
# Paths that resources share

Registration keeps the collections of resources apart, and with them their routes; it does not keep
apart the paths that match these routes. Where the literal segments of one resource are those of
another with one more segment behind them, the path of its collection is also that of an item of the
other. `BoundResource.matches_both_iff` says that nothing else is shared. Such a path belongs to the
collection: every request for a collection reaches it, and a request for an item reaches the item
unless its identifier is the last literal segment of another resource there.
-/

namespace Sluice.Resource

variable {σ : Type}

namespace BoundResource

/-- Whether a path matches a route of a resource. -/
def Matches (resource : BoundResource σ) (path : List Char) : Prop :=
  ∃ lane, ((resource.pattern lane).match? path).isSome = true

/-- Whether a path is that of the collection of one resource and of an item of another, whose literal
segments are those of the first less the last one. -/
def Nests (outer inner : BoundResource σ) (path : List Char) : Prop :=
  path = inner.base ∧ ∃ value, inner.offer.literals = outer.offer.literals ++ [value]

/-- The paths that match the routes of a resource are those of its collection and of its items. -/
theorem matches_iff (resource : BoundResource σ) (path : List Char) :
    resource.Matches path ↔ resource.IsCollection path ∨ ∃ value, resource.IsItem value path := by
  constructor
  · rintro ⟨lane, matched⟩
    obtain ⟨captures, matched⟩ := Option.isSome_iff_exists.mp matched
    by_cases item : lane = .item
    · subst item
      obtain ⟨value, named, _⟩ := (resource.match?_item ..).mp matched
      exact .inr ⟨value, named⟩
    · exact .inl (isCollection_of_match? item matched)
  · rintro (named | ⟨value, named⟩)
    · obtain ⟨lane, _, plain⟩ := exists_lane_of_isCollection named
      refine ⟨lane, Option.isSome_iff_exists.mpr ⟨[], ?_⟩⟩
      rw [plain, Route.Pattern.match?_plain]
      exact ⟨rfl, rfl⟩
    · exact ⟨.item, Option.isSome_iff_exists.mpr
        ⟨_, (resource.match?_item ..).mpr ⟨value, named, rfl⟩⟩⟩

/-- The path of a collection is that of an item of another exactly if it has one more literal
segment, which is the identifier. -/
theorem isItem_base_iff (outer inner : BoundResource σ) (value : List Char) :
    outer.IsItem value inner.base ↔ inner.offer.literals = outer.offer.literals ++ [value] := by
  have written : outer.base ++ '/' :: value =
      Template.pathChars (outer.offer.literals ++ [value]) := by
    rw [Template.pathChars_append, Template.pathChars_singleton]
    rfl
  constructor
  · rintro ⟨same, segment⟩
    rw [written] at same
    refine Template.pathChars_injective (fun _ => inner.sound.isSegment) ?_ same
    intro part member
    rcases List.mem_append.mp member with literal | last
    · exact outer.sound.isSegment literal
    · exact List.mem_singleton.mp last ▸ segment
  · intro literals
    have member : value ∈ inner.template.literalChars := by
      change value ∈ inner.offer.literals
      rw [literals]
      exact List.mem_append_right _ List.mem_cons_self
    refine ⟨?_, inner.sound.isSegment member⟩
    rw [written, ← literals]
    rfl

/-- The path of an item does not end with a separator. -/
theorem not_isItem_append_separator (resource : BoundResource σ) (value path : List Char) :
    ¬ resource.IsItem value (path ++ ['/']) := by
  rintro ⟨same, nonempty, segment⟩
  obtain ⟨_, rfl⟩ := Text.last_separator_unique (List.not_mem_nil (a := '/')) segment same
  exact nonempty rfl

/-- A collection and items of another resource share at most the path of the collection without a
separator at its end. -/
theorem nests_of_isItem {outer inner : BoundResource σ} {value path : List Char}
    (named : outer.IsItem value path) (isCollection : inner.IsCollection path) :
    outer.Nests inner path := by
  rcases isCollection with rfl | rfl
  · exact ⟨rfl, value, (outer.isItem_base_iff inner value).mp named⟩
  · exact absurd named (outer.not_isItem_append_separator value _)

/-- Such a path matches routes of both. -/
theorem Nests.matches {outer inner : BoundResource σ} {path : List Char}
    (nests : outer.Nests inner path) : outer.Matches path ∧ inner.Matches path := by
  obtain ⟨rfl, value, literals⟩ := nests
  exact ⟨(outer.matches_iff _).mpr (.inr ⟨value, (outer.isItem_base_iff inner value).mpr literals⟩),
    (inner.matches_iff _).mpr (.inl (.inl rfl))⟩

/-- Resources with different collections share the path of the collection of one of them, if that is
also the path of an item of the other, and no other path. -/
theorem matches_both_iff {first second : BoundResource σ} (apart : first.base ≠ second.base)
    (path : List Char) :
    first.Matches path ∧ second.Matches path ↔
      first.Nests second path ∨ second.Nests first path := by
  constructor
  · rw [matches_iff, matches_iff]
    rintro ⟨isCollection | ⟨value, named⟩, otherCollection | ⟨other, otherNamed⟩⟩
    · exact absurd (base_eq_of_isCollection isCollection otherCollection) apart
    · exact .inr (nests_of_isItem otherNamed isCollection)
    · exact .inl (nests_of_isItem named otherCollection)
    · exact absurd (eq_of_isItem named otherNamed).1 apart
  · rintro (nests | nests)
    · exact nests.matches
    · exact nests.matches.symm

/-- The collection of another resource has the path of an item exactly if its literal segments end
with the identifier. -/
theorem isCollection_iff_of_isItem {outer inner : BoundResource σ} {value path : List Char}
    (named : outer.IsItem value path) :
    inner.IsCollection path ↔ inner.offer.literals = outer.offer.literals ++ [value] := by
  constructor
  · intro isCollection
    obtain ⟨rfl, _⟩ := nests_of_isItem named isCollection
    exact (outer.isItem_base_iff inner value).mp named
  · intro literals
    obtain ⟨same, _⟩ := (outer.isItem_base_iff inner value).mpr literals
    exact .inl (named.1.trans same.symm)

end BoundResource

/-- An operation on a collection is that of its method there. -/
theorem Place.answer_collection {resource : BoundResource σ} {operation : Operation}
    (whole : operation.targetsItem = false) :
    (Place.collection resource).answer operation.method =
      .through (resource.binding operation) none := by
  cases operation with
  | fetchAll | create => rfl
  | fetchOne | update | delete => cases whole

/-- An operation on an item is that of its method there. -/
theorem Place.answer_item {resource : BoundResource σ} {operation : Operation}
    (item : operation.targetsItem = true) (value : List Char) :
    (Place.item resource value).answer operation.method =
      resource.itemAnswer value operation := by
  cases operation with
  | fetchOne | update | delete => rfl
  | fetchAll | create => cases item

/-- How the requests for an operation of one of some resources are answered: those for collections
always through the operation, those for items unless another resource has its collection there. -/
structure BoundResource.Serves (resources : List (BoundResource σ)) (resource : BoundResource σ)
    (operation : Operation) (engine : Engine σ) (cache : CacheRule) (request : Request)
    (incident : Incident) (shared : Shared σ) (exchange : Exchange σ) : Prop where
  collection : operation.targetsItem = false → resource.IsCollection request.uri.path →
    (Answer.through (resource.binding operation) none).Settles engine cache request incident shared
      exchange
  item : operation.targetsItem = true → ∀ value, resource.IsItem value request.uri.path →
    (∀ other ∈ resources, other.offer.literals ≠ resource.offer.literals ++ [value]) →
      (resource.itemAnswer value operation).Settles engine cache request incident shared exchange
  taken : operation.targetsItem = true → ∀ value, resource.IsItem value request.uri.path →
    ∀ other ∈ resources, other.offer.literals = resource.offer.literals ++ [value] →
      ((Place.collection other).answer operation.method).Settles engine cache request incident
        shared exchange

/-- A router of some resources answers for each of them as said. -/
theorem Router.Lists.serves {router : Router σ} {resources : List (BoundResource σ)}
    (lists : router.Lists resources)
    (distinct : resources.Pairwise fun first second => first.base ≠ second.base)
    {resource : BoundResource σ} (member : resource ∈ resources) {operation : Operation}
    {request : Request} (sameMethod : request.method = operation.method) (incident : Incident)
    (shared : Shared σ) :
    resource.Serves resources operation router.engine router.cache request incident shared
      (router.serve request incident shared) := by
  have settled {place : Place σ} (leads : place.Leads resources request.uri.path) :
      (place.answer operation.method).Settles router.engine router.cache request incident shared
        (router.serve request incident shared) := by
    have notHead : request.method ≠ .head := by
      rw [sameMethod]
      cases operation <;> decide
    have notOptions : request.method ≠ .options := by
      rw [sameMethod]
      cases operation <;> decide
    have settles := lists.settles_serve distinct leads notHead notOptions incident shared
    rwa [sameMethod] at settles
  constructor
  case collection =>
    intro whole named
    rw [← Place.answer_collection whole]
    exact settled (.collection member named)
  case item =>
    intro item value named free
    rw [← Place.answer_item item value]
    refine settled (.item member named fun other isOther isCollection => ?_)
    exact free other isOther ((BoundResource.isCollection_iff_of_isItem named).mp isCollection)
  case taken =>
    intro _ value named other isOther literals
    have isCollection := (BoundResource.isCollection_iff_of_isItem named).mpr literals
    exact settled (.collection isOther isCollection)

namespace Router.Lists

variable {router : Router σ} {resources : List (BoundResource σ)} {path : List Char}

/-- What is found for a path: the collection or an item of a resource. -/
theorem exists_of_find? (lists : router.Lists resources)
    (distinct : resources.Pairwise fun first second => first.base ≠ second.base)
    {bindings : List (Binding σ)} {captures : Route.Captures}
    (found : router.table.find? path = some (bindings, captures)) :
    ∃ resource ∈ resources,
      (bindings = resource.bindingsOn .collection ∧ captures = []) ∨
        ∃ value, resource.IsItem value path ∧ bindings = resource.bindingsOn .item ∧
          captures = [(resource.template.identifierName.toList, value)] := by
  obtain ⟨place, leads, _⟩ := Place.existsUnique_leads distinct path
  cases leads with
  | collection member named =>
    rw [lists.find?_collection distinct member named] at found
    cases found
    exact ⟨_, member, .inl ⟨rfl, rfl⟩⟩
  | item member named free =>
    rw [lists.find?_item distinct member named free] at found
    cases found
    exact ⟨_, member, .inr ⟨_, named, rfl, rfl⟩⟩
  | nowhere free unnamed =>
    rw [lists.find?_nowhere free unnamed] at found
    cases found

/-- A path that matches a route of a resource is found. -/
theorem isSome_find?_of_matches (lists : router.Lists resources)
    (distinct : resources.Pairwise fun first second => first.base ≠ second.base)
    {resource : BoundResource σ} (member : resource ∈ resources) (matched : resource.Matches path) :
    (router.table.find? path).isSome = true := by
  obtain ⟨place, leads, _⟩ := Place.existsUnique_leads distinct path
  cases leads with
  | collection present named => rw [lists.find?_collection distinct present named]; rfl
  | item present named free => rw [lists.find?_item distinct present named free]; rfl
  | nowhere free unnamed =>
    rcases (resource.matches_iff path).mp matched with named | ⟨value, named⟩
    · exact absurd named (free resource member)
    · exact absurd named (unnamed resource member value)

end Router.Lists

namespace Registration

/-- Whatever has been offered, two accepted resources share a path exactly if it is that of the
collection of one of them and the literal segments of this one are those of the other with one more
behind them. A router of the accepted resources answers each request for an operation through that
operation, unless it is for an item whose identifier another of them has as its last literal segment
there; then it is answered by the collection of that one. -/
theorem paths_shared (offers : List (Offer σ)) :
    ∃ resources : List (BoundResource σ),
      resources.map BoundResource.offer = (run offers).accepted ∧
      (∀ first ∈ resources, ∀ second ∈ resources, first ≠ second → ∀ path,
        first.Matches path ∧ second.Matches path ↔
          first.Nests second path ∨ second.Nests first path) ∧
      ∀ (engine : Engine σ) (cache : CacheRule) (router : Router σ),
        Router.build? (run offers).registry engine cache = some router →
          ∀ resource ∈ resources, ∀ (operation : Operation) (request : Request)
            (incident : Incident) (shared : Shared σ), request.method = operation.method →
              resource.Serves resources operation engine cache request incident shared
                (router.serve request incident shared) := by
  obtain ⟨resources, holds⟩ := exists_holds_run offers
  refine ⟨resources, holds.accepted, ?shared, ?served⟩
  case shared =>
    intro first isFirst second isSecond different path
    refine BoundResource.matches_both_iff (fun same => different ?_) path
    exact BoundResource.eq_of_base_eq holds.distinct isFirst isSecond same
  case served =>
    intro engine cache router built resource member operation request incident shared sameMethod
    have lists := Router.lists_of_build? holds.bindings holds.distinct built
    obtain ⟨table, _, rfl⟩ := Option.map_eq_some_iff.mp built
    exact lists.serves holds.distinct member sameMethod incident shared

/-- Two offers are accepted although a path matches a route of each. A deletion there is refused, while
one at any other item of the first resource reaches its operation, which denies access. -/
theorem item_taken_by_collection :
    let offers : List (Offer Unit) :=
      [⟨"/a/\x7bx\x7d", {}, .writtenBy ["W"]⟩, ⟨"/a/b/\x7by\x7d", {}, .writtenBy ["W"]⟩]
    let engine : Engine Unit := ⟨.checkedByLease fun _ => .ok (), .derived, ""⟩
    let deletion (path : String) : Request := ⟨.delete, ⟨path.toList, none⟩, [], [], none⟩
    let matching := (run offers).registry.routeTexts.filter fun route =>
      (Route.Pattern.parse? route).any fun pattern => (pattern.match? "/a/b".toList).isSome
    (run offers).accepted.map Offer.text = offers.map Offer.text ∧ matching = ["/a/:x", "/a/b"] ∧
      (Router.build? (run offers).registry engine .standard).map (fun router =>
        ((router.serve (deletion "/a/b") ⟨0⟩ (.start ())).response.status,
          (router.serve (deletion "/a/c") ⟨0⟩ (.start ())).response.status)) = some (405, 403) := by
  decide +kernel

end Registration

end Sluice.Resource
