import Mathlib.Data.List.Nodup
import Sluice.Proofs.Resource.Registration
import Sluice.Proofs.Route.Matching
import Sluice.Resource.Router

/-!
# Routes of resources

Every resource has three routes: that of the collection, the same with a separator at its end, and
that of an item. The first two are plain text and the third has an open end. With collections that
differ, the routes of resources never conflict, and a route leads to the bindings of one resource
only.

Whether a router can be built therefore depends on one thing that registration leaves unchecked: the
name of an identifier, which becomes the name of a parameter, may contain a character that begins
one.
-/

namespace Sluice.Resource

variable {σ : Type}

/-- The routes of a resource. -/
inductive Lane where
  | collection
  /-- The collection with a separator at its end. -/
  | trailing
  | item
  deriving Repr, DecidableEq

/-- The operations on a route, in the order in which they are bound. -/
def Lane.operations : Lane → List Operation
  | .collection | .trailing => [.fetchAll, .create]
  | .item => [.fetchOne, .update, .delete]

/-- The routes of an operation. -/
def Operation.lanes (operation : Operation) : List Lane :=
  if operation.targetsItem then [.item] else [.trailing, .collection]

/-- The operations on a route are those of which it is a route. -/
theorem Lane.filter_operations (lane : Lane) :
    Operation.all.filter (·.lanes.contains lane) = lane.operations := by
  cases lane <;> rfl

/-- Some operation has the route. -/
theorem Lane.exists_operation (lane : Lane) : ∃ operation : Operation, lane ∈ operation.lanes := by
  cases lane with
  | collection | trailing => exact ⟨.fetchAll, by decide⟩
  | item => exact ⟨.fetchOne, by decide⟩

namespace BoundResource

/-- The text of a route. -/
def route (resource : BoundResource σ) : Lane → String
  | .collection => resource.template.routeCollection
  | .trailing => resource.template.routeCollection ++ "/"
  | .item => resource.template.routeItem

/-- The pattern of a route. -/
def pattern (resource : BoundResource σ) : Lane → Route.Pattern
  | .collection => .plain resource.base
  | .trailing => .plain (resource.base ++ ['/'])
  | .item => .openEnded (resource.base ++ ['/']) resource.template.identifierName.toList

/-- The bindings on a route. -/
def bindingsOn (resource : BoundResource σ) (lane : Lane) : List (Binding σ) :=
  lane.operations.map resource.binding

/-- Bindings of items are on the route of items. -/
theorem lane_eq_item {resource : BoundResource σ} {lane : Lane} {binding : Binding σ}
    (member : binding ∈ resource.bindingsOn lane) (item : binding.operation.targetsItem = true) :
    lane = .item := by
  obtain ⟨operation, listed, rfl⟩ := List.mem_map.mp member
  have isItem : operation.targetsItem = true := item
  cases lane with
  | item => rfl
  | collection | trailing =>
    simp only [Lane.operations, List.mem_cons, List.not_mem_nil, or_false] at listed
    rcases listed with rfl | rfl <;> cases isItem

/-- Whether the name of the identifier can be the name of a parameter. -/
def IsRoutable (resource : BoundResource σ) : Prop :=
  resource.template.identifierName.toList.any Route.Pattern.isMark = false

/-- A name can be the name of a parameter if it contains no mark. -/
theorem isRoutable_iff (resource : BoundResource σ) :
    resource.IsRoutable ↔
      ∀ c ∈ resource.template.identifierName.toList, c ≠ ':' ∧ c ≠ '*' := by
  simp [IsRoutable, Route.Pattern.isMark]

/-! ## Texts -/

/-- The path of a collection begins with a separator. -/
theorem exists_base_eq (resource : BoundResource σ) : ∃ rest, resource.base = '/' :: rest :=
  resource.sound.base_shape.1

/-- The path of a collection does not end with a separator. -/
theorem base_ne_append_separator (resource : BoundResource σ) (path : List Char) :
    resource.base ≠ path ++ ['/'] := by
  obtain ⟨front, last, shape, different⟩ := resource.sound.base_shape.2
  intro ends
  have same : front ++ [last] = path ++ ['/'] := shape.symm.trans ends
  exact different (List.append_inj' same rfl |>.2 |> List.singleton_inj.mp)

/-- No mark stands in the path of a collection. -/
theorem isMark_of_mem_base {resource : BoundResource σ} {c : Char}
    (member : c ∈ resource.base) : Route.Pattern.isMark c = false := by
  refine Bool.eq_false_iff.mpr fun mark => resource.sound.not_mem_base ?_ member
  simp only [Route.Pattern.isMark, Bool.or_eq_true] at mark
  rcases mark with colon | asterisk
  · simp [Template.isSpecial, colon]
  · simp [Template.isSpecial, asterisk]

/-- The text of a route in front of its parameter. -/
def stem (resource : BoundResource σ) : Lane → List Char
  | .collection => resource.base
  | .trailing | .item => resource.base ++ ['/']

/-- The text of a plain route is its stem. -/
theorem toList_route_of_ne_item (resource : BoundResource σ) {lane : Lane} (plain : lane ≠ .item) :
    (resource.route lane).toList = resource.stem lane := by
  cases lane with
  | collection => exact resource.sound.toList_routeCollection
  | trailing =>
    simp only [route, String.toList_append, resource.sound.toList_routeCollection]
    rfl
  | item => exact absurd rfl plain

/-- The route of an item has the name of the identifier behind its stem. -/
theorem toList_route_item (resource : BoundResource σ) :
    (resource.route .item).toList =
      resource.stem .item ++ ':' :: resource.template.identifierName.toList := by
  have whole : (resource.route .item).toList =
      resource.base ++ '/' :: ':' :: resource.template.identifierName.toList :=
    resource.sound.toList_routeItem
  rw [whole, stem]
  simp

/-- A stem begins with a separator. -/
theorem exists_stem_eq (resource : BoundResource σ) (lane : Lane) :
    ∃ rest, resource.stem lane = '/' :: rest := by
  obtain ⟨rest, begins⟩ := resource.exists_base_eq
  cases lane with
  | collection => exact ⟨rest, begins⟩
  | trailing | item => exact ⟨rest ++ ['/'], by rw [stem, begins, List.cons_append]⟩

/-- No mark stands in a stem. -/
theorem isMark_of_mem_stem {resource : BoundResource σ} {lane : Lane} {c : Char}
    (member : c ∈ resource.stem lane) : Route.Pattern.isMark c = false := by
  have behind (slashed : c ∈ resource.base ++ ['/']) : Route.Pattern.isMark c = false := by
    rcases List.mem_append.mp slashed with inside | slash
    · exact isMark_of_mem_base inside
    · obtain rfl := List.mem_singleton.mp slash
      rfl
  cases lane with
  | collection => exact isMark_of_mem_base member
  | trailing | item => exact behind member

/-- The stem tells the collection and whether a separator stands behind it. -/
theorem stem_inj {first second : BoundResource σ} {one other : Lane}
    (same : first.stem one = second.stem other) :
    first.base = second.base ∧ (one = .collection ↔ other = .collection) := by
  cases one with
  | collection =>
    cases other with
    | collection => exact ⟨same, Iff.rfl⟩
    | trailing | item => exact absurd same (first.base_ne_append_separator _)
  | trailing | item =>
    cases other with
    | collection => exact absurd same.symm (second.base_ne_append_separator _)
    | trailing | item => exact ⟨List.append_cancel_right same, by simp⟩

/-- The colon shows which route is that of items. -/
theorem colon_mem_route_iff (resource : BoundResource σ) (lane : Lane) :
    ':' ∈ (resource.route lane).toList ↔ lane = .item := by
  constructor
  · intro member
    by_contra plain
    rw [toList_route_of_ne_item resource plain] at member
    exact absurd (isMark_of_mem_stem member) (by decide)
  · rintro rfl
    simp [toList_route_item]

/-- Routes with the same text are the same route of the same collection. -/
theorem route_inj {first second : BoundResource σ} {one other : Lane}
    (same : first.route one = second.route other) : one = other ∧ first.base = second.base := by
  have marked : one = .item ↔ other = .item := by
    rw [← colon_mem_route_iff first, ← colon_mem_route_iff second, same]
  have texts := congrArg String.toList same
  by_cases item : one = .item
  · obtain rfl := item
    obtain rfl := marked.mp rfl
    have uncut (resource : BoundResource σ) : ':' ∉ resource.stem .item := fun member =>
      absurd (isMark_of_mem_stem member) (by decide)
    rw [toList_route_item, toList_route_item] at texts
    have stems := (Text.first_separator_unique (uncut first) (uncut second) texts).1
    exact ⟨rfl, (stem_inj stems).1⟩
  · have plain : other ≠ .item := fun isItem => item (marked.mpr isItem)
    rw [toList_route_of_ne_item first item, toList_route_of_ne_item second plain] at texts
    obtain ⟨bases, alike⟩ := stem_inj texts
    refine ⟨?_, bases⟩
    cases one <;> cases other <;> simp_all

/-! ## Patterns -/

/-- The pattern of a plain route is its stem. -/
theorem pattern_of_ne_item (resource : BoundResource σ) {lane : Lane} (plain : lane ≠ .item) :
    resource.pattern lane = .plain (resource.stem lane) := by
  cases lane with
  | collection | trailing => rfl
  | item => exact absurd rfl plain

/-- The route of an item is read unless a mark stands in the name of the identifier. -/
theorem parse?_route_item (resource : BoundResource σ) :
    Route.Pattern.parse? (resource.route .item) =
      if resource.template.identifierName.toList.any Route.Pattern.isMark then none
      else some (resource.pattern .item) := by
  obtain ⟨rest, begins⟩ := resource.exists_stem_eq .item
  have shape : (resource.route .item).toList =
      '/' :: rest ++ ':' :: resource.template.identifierName.toList := by
    rw [toList_route_item, begins]
  have unmarked : ∀ c ∈ rest, Route.Pattern.isMark c = false := fun c member =>
    isMark_of_mem_stem (begins ▸ List.mem_cons_of_mem '/' member)
  rw [Route.Pattern.parse?_openEnded shape unmarked resource.sound.separator_not_mem_name
    resource.sound.named, ← begins]
  rfl

/-- The routes of a resource are read as their patterns if the name of the identifier allows it. -/
theorem parse?_route {resource : BoundResource σ} (routable : resource.IsRoutable) (lane : Lane) :
    Route.Pattern.parse? (resource.route lane) = some (resource.pattern lane) := by
  by_cases item : lane = .item
  · obtain rfl := item
    rw [parse?_route_item, routable]
    rfl
  · obtain ⟨rest, begins⟩ := resource.exists_stem_eq lane
    have text := toList_route_of_ne_item resource item
    have unmarked : ∀ c ∈ (resource.route lane).toList, Route.Pattern.isMark c = false := by
      rw [text]
      exact fun _ => isMark_of_mem_stem
    rw [Route.Pattern.parse?_plain (text.trans begins) unmarked, text,
      pattern_of_ne_item resource item]

/-- Only the routes of one collection, and only the same of these, conflict. -/
theorem conflicts_pattern {first second : BoundResource σ} {one other : Lane}
    (conflict : (first.pattern one).conflicts (second.pattern other) = true) :
    one = other ∧ first.base = second.base := by
  have apart := Route.Pattern.conflicts_plain_openEnded
  by_cases item : one = .item
  · by_cases otherItem : other = .item
    · obtain ⟨rfl, rfl⟩ := And.intro item otherItem
      have stems : first.stem .item = second.stem .item :=
        (Route.Pattern.conflicts_openEnded ..).mp conflict
      exact ⟨rfl, (stem_inj stems).1⟩
    · obtain rfl := item
      rw [pattern_of_ne_item second otherItem, pattern, (apart ..).2] at conflict
      cases conflict
  · by_cases otherItem : other = .item
    · obtain rfl := otherItem
      rw [pattern_of_ne_item first item, pattern, (apart ..).1] at conflict
      cases conflict
    · rw [pattern_of_ne_item first item, pattern_of_ne_item second otherItem] at conflict
      obtain ⟨bases, alike⟩ := stem_inj ((Route.Pattern.conflicts_plain ..).mp conflict)
      refine ⟨?_, bases⟩
      cases one <;> cases other <;> simp_all

/-! ## Bindings on routes -/

/-- A binding answers on the routes of its operation. -/
theorem routes_binding (resource : BoundResource σ) (operation : Operation) :
    (resource.binding operation).routes = operation.lanes.map resource.route := by
  cases operation <;> rfl

/-- Of the bindings of a resource those on a route are picked out by its text. -/
theorem filter_bindings_self (resource : BoundResource σ) (lane : Lane) :
    resource.bindings.filter (·.routes.contains (resource.route lane)) =
      resource.bindingsOn lane := by
  have picked (operation : Operation) :
      (resource.binding operation).routes.contains (resource.route lane) =
        operation.lanes.contains lane := by
    rw [Bool.eq_iff_iff, List.contains_iff_mem, List.contains_iff_mem, routes_binding, List.mem_map]
    constructor
    · rintro ⟨other, member, same⟩
      rwa [← (route_inj same).1]
    · intro member
      exact ⟨lane, member, rfl⟩
  rw [bindings, List.filter_map, bindingsOn, ← Lane.filter_operations]
  congr 2
  funext operation
  exact picked operation

/-- The text of a route picks out no binding of a resource with another collection. -/
theorem filter_bindings_other {resource other : BoundResource σ}
    (apart : other.base ≠ resource.base) (lane : Lane) :
    other.bindings.filter (·.routes.contains (resource.route lane)) = [] := by
  refine List.filter_eq_nil_iff.mpr fun binding member answers => ?_
  obtain ⟨operation, rfl⟩ := mem_bindings.mp member
  rw [List.contains_iff_mem, routes_binding] at answers
  obtain ⟨_, _, same⟩ := List.mem_map.mp answers
  exact apart (route_inj same).2

/-- Resources that differ in their collections are told apart by them. -/
theorem eq_of_base_eq {resources : List (BoundResource σ)}
    (distinct : resources.Pairwise fun first second => first.base ≠ second.base)
    {first second : BoundResource σ} (isFirst : first ∈ resources) (isSecond : second ∈ resources)
    (same : first.base = second.base) : first = second := by
  have once : (resources.map base).Nodup := List.pairwise_map.mpr distinct
  exact List.inj_on_of_nodup_map once isFirst isSecond same

end BoundResource

/-! ## Tables -/

namespace Registry

variable {registry : Registry σ} {resources : List (BoundResource σ)}

/-- The routes of a registry are those of its resources. -/
theorem mem_routeTexts (held : registry.bindings = resources.flatMap BoundResource.bindings)
    {text : String} : text ∈ registry.routeTexts ↔
      ∃ resource ∈ resources, ∃ lane, text = resource.route lane := by
  rw [routeTexts, List.mem_eraseDups, held]
  simp only [List.mem_flatMap]
  constructor
  · rintro ⟨binding, ⟨resource, member, inBlock⟩, answers⟩
    obtain ⟨operation, rfl⟩ := BoundResource.mem_bindings.mp inBlock
    rw [BoundResource.routes_binding] at answers
    obtain ⟨lane, _, rfl⟩ := List.mem_map.mp answers
    exact ⟨resource, member, lane, rfl⟩
  · rintro ⟨resource, member, lane, rfl⟩
    obtain ⟨operation, answers⟩ := lane.exists_operation
    refine ⟨resource.binding operation,
      ⟨resource, member, BoundResource.mem_bindings.mpr ⟨operation, rfl⟩⟩, ?_⟩
    rw [BoundResource.routes_binding]
    exact List.mem_map_of_mem answers

/-- On the route of a resource there are bindings of that resource only. -/
theorem bindingsOn_route (held : registry.bindings = resources.flatMap BoundResource.bindings)
    (distinct : resources.Pairwise fun first second => first.base ≠ second.base)
    {resource : BoundResource σ} (member : resource ∈ resources) (lane : Lane) :
    registry.bindingsOn (resource.route lane) = resource.bindingsOn lane := by
  obtain ⟨earlier, later, rfl⟩ := List.append_of_mem member
  have parted := List.pairwise_append.mp distinct
  have before : ∀ other ∈ earlier, other.base ≠ resource.base := fun other isEarlier =>
    parted.2.2 other isEarlier resource List.mem_cons_self
  have behind : ∀ other ∈ later, other.base ≠ resource.base := fun other isLater same =>
    (List.pairwise_cons.mp parted.2.1).1 other isLater same.symm
  have silent (others : List (BoundResource σ))
      (apart : ∀ other ∈ others, other.base ≠ resource.base) :
      others.flatMap (fun other =>
        other.bindings.filter (·.routes.contains (resource.route lane))) = [] :=
    List.flatMap_eq_nil_iff.mpr fun other isOther =>
      BoundResource.filter_bindings_other (apart other isOther) lane
  rw [bindingsOn, held, List.filter_flatMap, List.flatMap_append, List.flatMap_cons,
    silent earlier before, silent later behind, resource.filter_bindings_self]
  simp

/-- The routes of a registry with the bindings on them. -/
theorem mem_routesUnder (held : registry.bindings = resources.flatMap BoundResource.bindings)
    (distinct : resources.Pairwise fun first second => first.base ≠ second.base)
    (mount : String) {entry : String × List (Binding σ)} :
    entry ∈ registry.routesUnder mount ↔ ∃ resource ∈ resources, ∃ lane,
      entry = (mount ++ resource.route lane, resource.bindingsOn lane) := by
  simp only [routesUnder, List.mem_map, mem_routeTexts held]
  constructor
  · rintro ⟨_, ⟨resource, member, lane, rfl⟩, rfl⟩
    exact ⟨resource, member, lane, by rw [bindingsOn_route held distinct member]⟩
  · rintro ⟨resource, member, lane, rfl⟩
    exact ⟨_, ⟨resource, member, lane, rfl⟩, by rw [bindingsOn_route held distinct member]⟩

/-- No route is listed twice. -/
theorem nodup_routeTexts (registry : Registry σ) : registry.routeTexts.Nodup := by
  rw [routeTexts]
  generalize registry.bindings.flatMap Binding.routes = texts
  induction texts using List.reverseRecOn with
  | nil => exact .nil
  | append_singleton earlier last ih =>
    rw [List.eraseDups_append]
    by_cases repeated : last ∈ earlier
    · simpa [List.removeAll, repeated] using ih
    · have alone : ([last].removeAll earlier).eraseDups = [last] := by
        simp [List.removeAll, repeated, List.eraseDups_cons]
      rw [alone]
      exact List.nodup_append.mpr ⟨ih, List.nodup_singleton last, by
        intro text member other isLast
        obtain rfl := List.mem_singleton.mp isLast
        rintro rfl
        exact repeated (List.mem_eraseDups.mp member)⟩

end Registry

/-- The row that a route makes in a table. -/
theorem rowOf_route {resource : BoundResource σ} (routable : resource.IsRoutable) (lane : Lane) :
    Route.Table.rowOf ("" ++ resource.route lane, resource.bindingsOn lane) =
      (resource.pattern lane, resource.bindingsOn lane) := by
  simp only [Route.Table.rowOf, String.empty_append, BoundResource.parse?_route routable,
    Option.getD_some]

namespace Router

variable {registry : Registry σ} {resources : List (BoundResource σ)}

/-- A router can be built exactly if the names of all identifiers can be names of parameters. -/
theorem isSome_build?_iff (held : registry.bindings = resources.flatMap BoundResource.bindings)
    (distinct : resources.Pairwise fun first second => first.base ≠ second.base)
    (engine : Engine σ) (cache : CacheRule) :
    (build? registry engine cache).isSome = true ↔
      ∀ resource ∈ resources, resource.IsRoutable := by
  have listed {entry : String × List (Binding σ)} : entry ∈ registry.routesUnder "" ↔ _ :=
    Registry.mem_routesUnder held distinct ""
  rw [build?, Option.isSome_map, Option.isSome_iff_exists]
  simp only [Route.Table.build?_eq_some_iff]
  constructor
  · rintro ⟨table, read, _⟩ resource member
    have legible := read _ (listed.mpr ⟨resource, member, .item, rfl⟩)
    rw [String.empty_append, BoundResource.parse?_route_item] at legible
    split at legible
    · cases legible
    · next unmarked => exact Bool.eq_false_iff.mpr unmarked
  · intro routable
    refine ⟨_, ?_, rfl, ?_⟩
    · intro entry member
      obtain ⟨resource, isResource, lane, rfl⟩ := listed.mp member
      rw [String.empty_append, BoundResource.parse?_route (routable resource isResource)]
      rfl
    · have texts : (registry.routesUnder "").Pairwise fun first second =>
          first.1 ≠ second.1 := by
        rw [Registry.routesUnder, List.pairwise_map]
        simp only [String.empty_append]
        exact registry.nodup_routeTexts
      rw [Route.Table.Apart, List.pairwise_map]
      refine texts.imp_of_mem ?_
      intro first second isFirst isSecond apart
      obtain ⟨resource, isResource, lane, rfl⟩ := listed.mp isFirst
      obtain ⟨other, isOther, place, rfl⟩ := listed.mp isSecond
      refine Bool.eq_false_iff.mpr fun conflict => apart ?_
      rw [rowOf_route (routable resource isResource), rowOf_route (routable other isOther)]
        at conflict
      obtain ⟨rfl, bases⟩ := BoundResource.conflicts_pattern conflict
      obtain rfl := BoundResource.eq_of_base_eq distinct isResource isOther bases
      rfl

/-- So they can be, wherever a router has been built. -/
theorem isRoutable_of_build? (held : registry.bindings = resources.flatMap BoundResource.bindings)
    (distinct : resources.Pairwise fun first second => first.base ≠ second.base)
    {engine : Engine σ} {cache : CacheRule} {router : Router σ}
    (built : build? registry engine cache = some router) :
    ∀ resource ∈ resources, resource.IsRoutable := by
  rw [← isSome_build?_iff held distinct engine cache, built]
  rfl

/-- The rows of a router are the routes of its resources with the bindings on them. -/
theorem mem_table_iff (held : registry.bindings = resources.flatMap BoundResource.bindings)
    (distinct : resources.Pairwise fun first second => first.base ≠ second.base)
    {engine : Engine σ} {cache : CacheRule} {router : Router σ}
    (built : build? registry engine cache = some router)
    {row : Route.Pattern × List (Binding σ)} :
    row ∈ router.table ↔ ∃ resource ∈ resources, ∃ lane,
      row = (resource.pattern lane, resource.bindingsOn lane) := by
  have routable := isRoutable_of_build? held distinct built
  obtain ⟨table, made, rfl⟩ := Option.map_eq_some_iff.mp built
  obtain ⟨_, rfl, _⟩ := (Route.Table.build?_eq_some_iff _ _).mp made
  simp only [List.mem_map, Registry.mem_routesUnder held distinct]
  constructor
  · rintro ⟨_, ⟨resource, member, lane, rfl⟩, rfl⟩
    exact ⟨resource, member, lane, rowOf_route (routable resource member) lane⟩
  · rintro ⟨resource, member, lane, rfl⟩
    exact ⟨_, ⟨resource, member, lane, rfl⟩, rowOf_route (routable resource member) lane⟩

end Router

namespace Registration

/-- After any series of offers a router can be built exactly if no name of an identifier of an
accepted offer contains a colon or an asterisk. -/
theorem router_builds_iff (offers : List (Offer σ)) (engine : Engine σ) (cache : CacheRule) :
    (Router.build? (run offers).registry engine cache).isSome = true ↔
      ∀ offer ∈ (run offers).accepted, ∀ template, Template.validate offer.text = .ok template →
        ∀ c ∈ template.identifierName.toList, c ≠ ':' ∧ c ≠ '*' := by
  obtain ⟨resources, holds⟩ := exists_holds_run offers
  rw [Router.isSome_build?_iff holds.bindings holds.distinct, ← holds.accepted]
  constructor
  · intro routable offer member template valid
    obtain ⟨resource, isResource, rfl⟩ := List.mem_map.mp member
    obtain rfl := Except.ok.inj (resource.checked.symm.trans valid)
    exact resource.isRoutable_iff.mp (routable resource isResource)
  · intro unmarked resource member
    exact resource.isRoutable_iff.mpr
      (unmarked resource.offer (List.mem_map_of_mem member) resource.template resource.checked)

/-- An offer is accepted although no router can be built with it: the name of its identifier
contains a colon. -/
theorem accepted_without_router :
    let offers : List (Offer Unit) := [⟨"/a/\x7bx:y\x7d", {}, .writtenBy ["W"]⟩]
    (run offers).accepted.map Offer.text = offers.map Offer.text ∧
      (Router.build? (run offers).registry ⟨.checkedByLease fun _ => .ok (), .derived, ""⟩
        .standard).isSome = false := by
  decide +kernel

end Registration

end Sluice.Resource
