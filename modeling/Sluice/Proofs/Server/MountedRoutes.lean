import Sluice.Proofs.Resource.SharedPaths
import Sluice.Proofs.Route.Mounting
import Sluice.Proofs.Server.CrossOrigin
import Sluice.Proofs.Server.Mount

/-!
# Resources under the context path

A server mounts its resources under the context path less the separators at its end, beside the health
check. Settings pass their check if the context path begins with a separator; what it takes for a
server to be assembled is more, `Settings.Bears`. The mount is read like a route, so an asterisk in it,
a piece of it with a colon that cannot be read, and too many parameters keep routes from standing under
it; and at the root a resource may take the path of the health check. A mount that can be read stands
for itself if there is no colon in it. A colon begins a parameter, and then requests reach resources
behind paths that do not begin with the mount, `Application.resources_mounted`.
-/

namespace Sluice.Route.Pattern

/-- A pattern conflicts with plain text exactly if it is this text. -/
theorem conflicts_plain_iff (pattern : Pattern) (path : List Char) :
    pattern.conflicts (plain path) = true ↔ pattern = plain path := by
  constructor
  · induction pattern generalizing path with
    | nil => cases path <;> simp [conflicts, plain]
    | cons atom rest ih =>
      intro conflict
      cases path with
      | nil => cases atom <;> cases conflict
      | cons c tail =>
        cases atom with
        | capture name => cases conflict
        | literal d =>
          obtain ⟨same, onward⟩ : d = c ∧ conflicts rest (plain tail) = true := by
            simpa [conflicts, plain] using conflict
          rw [same, ih tail onward]
          rfl
  · rintro rfl
    exact (conflicts_plain path path).mpr rfl

end Sluice.Route.Pattern

namespace Sluice.Resource.BoundResource

variable {σ : Type}

/-- The pattern of a route begins with a separator. -/
theorem exists_pattern_eq (resource : BoundResource σ) (lane : Lane) :
    ∃ rest, resource.pattern lane = .literal '/' :: rest := by
  obtain ⟨rest, begins⟩ := resource.exists_stem_eq lane
  by_cases item : lane = .item
  · subst item
    have shape : resource.pattern .item = .openEnded (resource.stem .item) _ := rfl
    rw [shape, begins]
    exact ⟨_, rfl⟩
  · rw [resource.pattern_of_ne_item item, begins]
    exact ⟨_, rfl⟩

/-- A path that matches a route under a mount is something that the mount stands for and behind it a
path that matches the route. -/
theorem exists_fills_of_match? (resource : BoundResource σ) (lane : Lane) {mount : Route.Pattern}
    (parted : mount.Parted) {path : List Char} {captures : Route.Captures}
    (matched : (mount ++ resource.pattern lane).match? path = some captures) :
    ∃ front rest own caught, path = front ++ rest ∧ Route.Pattern.Fills mount front own ∧
      (resource.pattern lane).match? rest = some caught ∧ captures = own ++ caught := by
  obtain ⟨onward, begins⟩ := resource.exists_pattern_eq lane
  rw [begins] at matched ⊢
  obtain ⟨front, rest, own, caught, split, fills, behind, captured⟩ :=
    (Route.Pattern.match?_append_iff parted ..).mp matched
  exact ⟨front, '/' :: rest, own, caught, split, fills, behind, captured⟩

/-- There is one parameter in the route of items and none in the others. -/
theorem countP_pattern (resource : BoundResource σ) (lane : Lane) :
    (resource.pattern lane).countP Route.Atom.isCapture = if lane = .item then 1 else 0 := by
  cases lane with
  | collection | trailing => exact Route.Pattern.countP_plain _
  | item =>
    simp [pattern, Route.Pattern.openEnded, Route.Pattern.countP_plain, Route.Atom.isCapture]

/-- A path of a resource begins with a separator. -/
theorem Matches.begins {resource : BoundResource σ} {path : List Char}
    (matched : resource.Matches path) : ∃ rest, path = '/' :: rest := by
  obtain ⟨rest, begins⟩ := resource.exists_base_eq
  rcases (resource.matches_iff path).mp matched with (rfl | rfl) | ⟨value, rfl, _, _⟩
  · exact ⟨rest, begins⟩
  · exact ⟨rest ++ ['/'], by rw [begins, List.cons_append]⟩
  · exact ⟨rest ++ '/' :: value, by rw [begins, List.cons_append]⟩

/-- There are two separators in every path of a resource but that of its collection. -/
theorem eq_base_or_two_separators {resource : BoundResource σ} {path : List Char}
    (matched : resource.Matches path) : path = resource.base ∨ 2 ≤ path.count '/' := by
  obtain ⟨rest, begins⟩ := resource.exists_base_eq
  have first : 1 ≤ resource.base.count '/' := by simp [begins]
  rcases (resource.matches_iff path).mp matched with (rfl | rfl) | ⟨value, rfl, _, _⟩
  · exact .inl rfl
  · exact .inr (by simpa [List.count_append] using first)
  · rw [List.count_append, List.count_cons_self]
    exact .inr (by omega)

/-- Behind a text that is empty or begins with a separator, the path of a resource is that of the
health check only if the text is empty and the resource has the one literal segment of that path. -/
theorem literals_of_append_eq_health {resource : BoundResource σ} {front path : List Char}
    (shape : front = [] ∨ ∃ tail, front = '/' :: tail) (matched : resource.Matches path)
    (same : front ++ path = Server.Application.healthPath.toList) :
    front = [] ∧ resource.offer.literals = ["health".toList] := by
  have one : 1 ≤ path.count '/' := by
    obtain ⟨rest, rfl⟩ := matched.begins
    simp
  have single : front.count '/' + path.count '/' = 1 := by
    rw [← List.count_append, same]
    decide
  rcases shape with rfl | ⟨tail, rfl⟩
  · refine ⟨rfl, ?_⟩
    rcases eq_base_or_two_separators matched with rfl | two
    · refine Template.pathChars_injective (fun _ => resource.sound.isSegment) ?_ ?_
      · intro segment member
        obtain rfl := List.mem_singleton.mp member
        exact ⟨by decide, by decide⟩
      · exact same
    · simp only [List.count_nil] at single
      omega
  · rw [List.count_cons_self] at single
    omega

end Sluice.Resource.BoundResource

namespace Sluice.Server

open Resource Route

variable {σ : Type}

/-! ## The mount -/

namespace Settings

/-- The text under which resources are mounted. -/
def mount (settings : Settings) : List Char :=
  (withoutTrailing settings.server.contextPath).toList

/-- The mount as it is read, if it can be. -/
def mountPattern (settings : Settings) : Pattern :=
  (Pattern.parseFrom none settings.mount).getD []

/-- What it takes for accepted offers to be served under the mount: that there is no asterisk in it,
that it can be read with a parameter behind it if there is any offer, and that none of them has the path
of the health check. -/
structure Bears (settings : Settings) (accepted : List (Offer σ)) : Prop where
  unstarred : '*' ∉ settings.mount
  legible : accepted ≠ [] →
    Pattern.IsLegible settings.mount ∧ settings.mount.count ':' < Pattern.maxCaptures
  free : settings.mount = [] → ∀ offer ∈ accepted, offer.literals ≠ ["health".toList]

/-- Whether a path leads to a binding of a resource: it is something that the mount stands for, which
is the mount itself unless there is a colon in it, and behind that a path of a route with the binding.
-/
def Leads (settings : Settings) (resource : BoundResource σ) (binding : Binding σ)
    (path : List Char) : Prop :=
  ∃ front rest held lane, path = front ++ rest ∧ Pattern.Fills settings.mountPattern front held ∧
    (':' ∉ settings.mount → front = settings.mount) ∧ binding ∈ resource.bindingsOn lane ∧
    ((resource.pattern lane).match? rest).isSome = true

variable {settings : Settings}

/-- The mount of settings that pass their check is empty or begins with a separator. -/
theorem mount_shape (valid : settings.validate.isOk = true) :
    withoutTrailing settings.server.contextPath = "" ∨ ∃ tail, settings.mount = '/' :: tail := by
  have begins : settings.server.contextPath.toList.head? = some '/' := by
    by_contra elsewhere
    unfold validate at valid
    split at valid
    · cases valid
    · cases valid
  obtain ⟨rest, path⟩ := List.head?_eq_some_iff.mp begins
  have front : settings.mount <+: '/' :: rest := by
    rw [mount, toList_withoutTrailing, ← path]
    exact List.rdropWhile_prefix ..
  rcases List.prefix_cons_iff.mp front with empty | ⟨tail, shape, _⟩
  · exact .inl (String.toList_eq_nil_iff.mp empty)
  · exact .inr ⟨tail, shape⟩

/-- Of a mount that can be read, its pattern is what is read. -/
theorem parseFrom_mount (legible : Pattern.IsLegible settings.mount) :
    Pattern.parseFrom none settings.mount = some settings.mountPattern := by
  obtain ⟨pattern, read⟩ :=
    Option.isSome_iff_exists.mp ((Pattern.isSome_parseFrom_iff _).mpr legible)
  rw [mountPattern, read, Option.getD_some]

theorem parted_mountPattern (settings : Settings) : settings.mountPattern.Parted := by
  unfold mountPattern
  cases read : Pattern.parseFrom none settings.mount with
  | none => exact .nil
  | some pattern => exact Pattern.parted_parseFrom read

/-- A mount without marks is plain text. -/
theorem mountPattern_of_plain (unstarred : '*' ∉ settings.mount) (uncolored : ':' ∉ settings.mount) :
    settings.mountPattern = .plain settings.mount := by
  have unmarked : ∀ c ∈ settings.mount, Pattern.isMark c = false := by
    intro c member
    have colon : c ≠ ':' := fun same => uncolored (same ▸ member)
    have asterisk : c ≠ '*' := fun same => unstarred (same ▸ member)
    simp [Pattern.isMark, colon, asterisk]
  have read := Pattern.parseFrom_plain_append unmarked []
  simp only [List.append_nil, Pattern.parseFrom, Option.map_some] at read
  rw [mountPattern, read, Option.getD_some]

/-- Whatever the mount stands for is empty at the root and begins with a separator elsewhere. -/
theorem front_shape (valid : settings.validate.isOk = true) {front : List Char}
    {held : Captures} (legible : Pattern.IsLegible settings.mount)
    (fills : Pattern.Fills settings.mountPattern front held) :
    (settings.mount = [] ∧ front = []) ∨ ∃ tail, front = '/' :: tail := by
  have read := parseFrom_mount legible
  rcases mount_shape valid with root | ⟨tail, shape⟩
  · have empty : settings.mount = [] := by rw [mount, root]; rfl
    rw [empty] at read
    obtain pattern : [] = settings.mountPattern := Option.some.inj read
    rw [← pattern] at fills
    cases fills
    exact .inl ⟨empty, rfl⟩
  · rw [shape] at read
    obtain ⟨onward, _, pattern⟩ :
        ∃ onward, Pattern.parseFrom none tail = some onward ∧
          .literal '/' :: onward = settings.mountPattern :=
      Option.map_eq_some_iff.mp read
    rw [← pattern] at fills
    cases fills with
    | literal _ later => exact .inr ⟨_, rfl⟩

/-- Behind what the mount stands for, no path of a resource is that of the health check, unless the
mount is the root and that path is the one literal segment of the resource. -/
theorem append_ne_health (valid : settings.validate.isOk = true)
    (legible : Pattern.IsLegible settings.mount) {front path : List Char} {held : Captures}
    (fills : Pattern.Fills settings.mountPattern front held) {resource : BoundResource σ}
    (matched : resource.Matches path)
    (free : settings.mount = [] → resource.offer.literals ≠ ["health".toList]) :
    front ++ path ≠ Application.healthPath.toList := by
  intro same
  have shape := front_shape valid legible fills
  obtain ⟨empty, literals⟩ :=
    BoundResource.literals_of_append_eq_health (shape.imp_left And.right) matched same
  rcases shape with ⟨root, _⟩ | ⟨tail, filled⟩
  · exact free root literals
  · rw [empty] at filled
    cases filled

/-- A route can be read under the mount exactly if the mount can be read and there are not too many
parameters in the two of them. -/
theorem isSome_parse?_route_iff (valid : settings.validate.isOk = true)
    {resource : BoundResource σ} (routable : resource.IsRoutable) (lane : Lane) :
    (Pattern.parse?
        (withoutTrailing settings.server.contextPath ++ resource.route lane)).isSome = true ↔
      Pattern.IsLegible settings.mount ∧
        settings.mount.count ':' + (if lane = .item then 1 else 0) ≤ Pattern.maxCaptures := by
  have counted {pattern : Pattern} (read : Pattern.parseFrom none settings.mount = some pattern) :
      (pattern ++ resource.pattern lane).countP Atom.isCapture =
        settings.mount.count ':' + if lane = .item then 1 else 0 := by
    rw [List.countP_append, Pattern.countP_parseFrom read, resource.countP_pattern,
      Option.isSome_none, Bool.toNat_false, Nat.add_zero]
  rw [Pattern.parse?_append_of_parse? (mount_shape valid) (BoundResource.parse?_route routable lane),
    Option.isSome_iff_exists]
  simp only [Option.filter_eq_some_iff, Option.map_eq_some_iff, decide_eq_true_eq]
  constructor
  · rintro ⟨_, ⟨pattern, read, rfl⟩, few⟩
    refine ⟨(Pattern.isSome_parseFrom_iff _).mp (Option.isSome_iff_exists.mpr ⟨pattern, read⟩), ?_⟩
    rwa [counted read] at few
  · rintro ⟨legible, few⟩
    have read := parseFrom_mount legible
    refine ⟨_, ⟨settings.mountPattern, read, rfl⟩, ?_⟩
    rwa [counted read]

end Settings

namespace Application

variable {settings : Settings} {registry : Registry σ} {source : Source σ}
  {application : Application σ} {resources : List (BoundResource σ)} {engine : Engine σ}
  {cache : CacheRule} {router : Router σ}

/-! ## Destinations under the mount -/

/-- If all destinations can be read, their rows are those of a router under the mount and one for the
health check. -/
theorem rows_destinations (valid : settings.validate.isOk = true)
    (built : Router.build? registry engine cache = some router)
    (read : ∀ entry ∈ destinations registry (withoutTrailing settings.server.contextPath),
      (Pattern.parse? entry.1).isSome = true) :
    (destinations registry (withoutTrailing settings.server.contextPath)).map Table.rowOf =
      router.table.under settings.mountPattern .resource ++
        [(.plain healthPath.toList, .health)] := by
  obtain ⟨table, made, rfl⟩ := Option.map_eq_some_iff.mp built
  obtain ⟨alone, rfl, _⟩ := (Table.build?_eq_some_iff ..).mp made
  have health : Table.rowOf (healthPath, (Destination.health : Destination σ)) =
      (.plain healthPath.toList, .health) := by
    rw [Table.rowOf, parse?_healthPath, Option.getD_some]
  simp only [destinations, Registry.routesUnder, Table.under, List.map_append, List.map_map,
    List.map_cons, List.map_nil, health, String.empty_append]
  refine congrArg (· ++ _) (List.map_congr_left fun route member => ?_)
  have underMount := read (withoutTrailing settings.server.contextPath ++ route, .resource _)
    (List.mem_append_left _ (List.mem_map_of_mem (List.mem_map_of_mem member)))
  have bare := alone ("" ++ route, _) (List.mem_map_of_mem member)
  rw [String.empty_append] at bare
  obtain ⟨pattern, bare⟩ := Option.isSome_iff_exists.mp bare
  obtain ⟨whole, underMount⟩ := Option.isSome_iff_exists.mp underMount
  obtain ⟨rest, begins⟩ := Pattern.exists_cons_toList_of_parse? bare
  obtain ⟨front, other, readMount, readRoute, rfl⟩ :=
    Pattern.exists_append_of_parse? (Settings.mount_shape valid) begins underMount
  obtain rfl := Option.some.inj (bare.symm.trans readRoute)
  have mounted : settings.mountPattern = front := by
    rw [Settings.mountPattern, Settings.mount, readMount, Option.getD_some]
  simp only [Function.comp_apply, Table.rowOf, underMount, bare, Option.getD_some, mounted]

/-- The table of a server: the rows of a router under the mount and one for the health check. -/
theorem table_of_assemble? (valid : settings.validate.isOk = true)
    (assembled : assemble? settings registry source = some application)
    (built : Router.build? registry engine cache = some router) :
    application.table = router.table.under settings.mountPattern .resource ++
      [(.plain healthPath.toList, .health)] := by
  obtain ⟨read, rows, _⟩ := (Table.build?_eq_some_iff ..).mp (build?_of_assemble? assembled).1
  rw [rows, rows_destinations valid built read]

/-- The routes of resources are among the destinations. -/
theorem mem_destinations (held : registry.bindings = resources.flatMap BoundResource.bindings)
    (distinct : resources.Pairwise fun first second => first.base ≠ second.base)
    {resource : BoundResource σ} (member : resource ∈ resources) (lane : Lane) (mount : String) :
    (mount ++ resource.route lane, .resource (resource.bindingsOn lane)) ∈
      destinations registry mount :=
  List.mem_append_left _ (List.mem_map_of_mem
    ((Registry.mem_routesUnder held distinct mount).mpr ⟨resource, member, lane, rfl⟩))

section Registered

variable (valid : settings.validate.isOk = true)
  (held : registry.bindings = resources.flatMap BoundResource.bindings)
  (distinct : resources.Pairwise fun first second => first.base ≠ second.base)
  (built : Router.build? registry engine cache = some router)

include valid held distinct built

/-- All destinations can be read exactly if the mount can be, with room for the parameter of an item,
or there is no resource. -/
theorem forall_isSome_parse?_iff :
    (∀ entry ∈ destinations registry (withoutTrailing settings.server.contextPath),
        (Pattern.parse? entry.1).isSome = true) ↔
      (resources ≠ [] →
        Pattern.IsLegible settings.mount ∧ settings.mount.count ':' < Pattern.maxCaptures) := by
  have routable := Router.isRoutable_of_build? held distinct built
  constructor
  · intro read nonempty
    obtain ⟨resource, member⟩ := List.exists_mem_of_ne_nil resources nonempty
    have item := read _ (mem_destinations held distinct member .item _)
    exact (Settings.isSome_parse?_route_iff valid (routable resource member) .item).mp item
  · intro legible entry member
    rcases List.mem_append.mp member with isResource | isHealth
    · obtain ⟨_, isRoute, rfl⟩ := List.mem_map.mp isResource
      obtain ⟨resource, present, lane, rfl⟩ := (Registry.mem_routesUnder held distinct _).mp isRoute
      obtain ⟨read, few⟩ := legible (List.ne_nil_of_mem present)
      refine (Settings.isSome_parse?_route_iff valid (routable resource present) lane).mpr ⟨read, ?_⟩
      split <;> omega
    · obtain rfl := List.mem_singleton.mp isHealth
      rw [parse?_healthPath]
      rfl

/-- Under a mount that can be read, a route of a resource conflicts with the path of the health check
only at the root, where the two are the same. -/
theorem apart_destinations_iff
    (legible : resources ≠ [] → Pattern.IsLegible settings.mount) :
    Table.Apart (router.table.under settings.mountPattern .resource ++
        [(.plain healthPath.toList, (Destination.health : Destination σ))]) ↔
      (settings.mount = [] →
        ∀ resource ∈ resources, resource.offer.literals ≠ ["health".toList]) := by
  have lists := Router.lists_of_build? held distinct built
  rw [Table.apart_concat_iff, Table.apart_under_iff]
  constructor
  · rintro ⟨_, free⟩ root resource member literals
    have row : (settings.mountPattern ++ resource.pattern .collection,
        Destination.resource (resource.bindingsOn .collection)) ∈
          router.table.under settings.mountPattern .resource :=
      List.mem_map.mpr ⟨(resource.pattern .collection, resource.bindingsOn .collection),
        (lists _).mpr ⟨resource, member, .collection, rfl⟩, rfl⟩
    have base : resource.base = healthPath.toList := congrArg Template.pathChars literals
    have pattern : settings.mountPattern = [] := by rw [Settings.mountPattern, root]; rfl
    have apart := free _ row
    rw [pattern, List.nil_append, BoundResource.pattern, base] at apart
    exact absurd ((Pattern.conflicts_plain ..).mpr rfl) (Bool.eq_false_iff.mp apart)
  · intro free
    obtain ⟨table, made, rfl⟩ := Option.map_eq_some_iff.mp built
    refine ⟨((Table.build?_eq_some_iff ..).mp made).2.2, fun row member => ?_⟩
    obtain ⟨_, isRoute, rfl⟩ := List.mem_map.mp member
    obtain ⟨resource, present, lane, rfl⟩ := (lists _).mp isRoute
    refine Bool.eq_false_iff.mpr fun conflict => ?_
    -- Then the path of the health check would be that of a resource behind the mount.
    have same := (Pattern.conflicts_plain_iff ..).mp conflict
    have matched := (Pattern.match?_plain healthPath.toList _ _).mpr ⟨rfl, rfl⟩
    rw [← same] at matched
    obtain ⟨front, rest, _, caught, path, fills, behind, _⟩ :=
      resource.exists_fills_of_match? lane settings.parted_mountPattern matched
    exact Settings.append_ne_health valid (legible (List.ne_nil_of_mem present)) fills
      ⟨lane, Option.isSome_iff_exists.mpr ⟨caught, behind⟩⟩
      (fun root => free root resource present) path.symm

/-- Something can be mounted and the routes can stand together exactly if the mount bears the accepted
offers. -/
theorem bears_iff :
    (hasRestMark (withoutTrailing settings.server.contextPath) = false ∧
        (Table.build? (destinations registry
          (withoutTrailing settings.server.contextPath))).isSome = true) ↔
      settings.Bears (resources.map BoundResource.offer) := by
  have legible := forall_isSome_parse?_iff valid held distinct built
  have apart := apart_destinations_iff valid held distinct built
  have unmarked : hasRestMark (withoutTrailing settings.server.contextPath) = false ↔
      '*' ∉ settings.mount := by
    rw [hasRestMark, ← Bool.not_eq_true, List.contains_iff_mem]
    rfl
  constructor
  · rintro ⟨noMark, builds⟩
    obtain ⟨whole, made⟩ := Option.isSome_iff_exists.mp builds
    obtain ⟨read, rfl, together⟩ := (Table.build?_eq_some_iff ..).mp made
    rw [rows_destinations valid built read] at together
    refine ⟨unmarked.mp noMark, fun nonempty => ?_, fun root => ?_⟩
    · exact legible.mp read fun none => nonempty (by rw [none, List.map_nil])
    · exact List.forall_mem_map.mpr
        ((apart fun nonempty => (legible.mp read nonempty).1).mp together root)
  · intro bears
    have present (nonempty : resources ≠ []) : resources.map BoundResource.offer ≠ [] := by
      rwa [ne_eq, List.map_eq_nil_iff]
    have read := legible.mpr fun nonempty => bears.legible (present nonempty)
    refine ⟨unmarked.mpr bears.unstarred, Option.isSome_iff_exists.mpr
      ⟨_, (Table.build?_eq_some_iff ..).mpr ⟨read, rfl, ?_⟩⟩⟩
    rw [rows_destinations valid built read]
    exact (apart fun nonempty => (bears.legible (present nonempty)).1).mpr
      fun root resource member => bears.free root resource.offer (List.mem_map_of_mem member)

/-- The mount of an assembled server bears the accepted offers. -/
theorem bears_of_assemble? (assembled : assemble? settings registry source = some application) :
    settings.Bears (resources.map BoundResource.offer) := by
  have builds : (assemble? settings registry source).isSome = true := by rw [assembled]; rfl
  exact (bears_iff valid held distinct built).mp ((isSome_assemble?_iff ..).mp builds).2

/-! ## Requests under the mount -/

/-- Behind what the mount stands for, a server finds what a router finds. -/
theorem find?_mounted (assembled : assemble? settings registry source = some application)
    {front path : List Char} {own caught : Captures} {bindings : List (Binding σ)}
    (fills : Pattern.Fills settings.mountPattern front own)
    (found : router.table.find? path = some (bindings, caught)) :
    application.table.find? (front ++ path) = some (.resource bindings, own ++ caught) := by
  have lists := Router.lists_of_build? held distinct built
  have bears := bears_of_assemble? valid held distinct built assembled
  obtain ⟨pattern, member, matched⟩ := Table.exists_row_of_find? found
  obtain ⟨resource, present, lane, row⟩ := (lists _).mp member
  obtain ⟨rfl, rfl⟩ := Prod.mk.inj row
  have isOffer := List.mem_map_of_mem (f := BoundResource.offer) present
  have isPath : resource.Matches path := ⟨lane, Option.isSome_iff_exists.mpr ⟨caught, matched⟩⟩
  have elsewhere : front ++ path ≠ healthPath.toList :=
    Settings.append_ne_health valid (bears.legible (List.ne_nil_of_mem isOffer)).1 fills isPath
      fun root => bears.free root resource.offer isOffer
  have nonempty : ∀ row ∈ router.table, row.1 ≠ [] := by
    intro row isRow
    obtain ⟨other, _, place, rfl⟩ := (lists row).mp isRow
    obtain ⟨rest, shape⟩ := other.exists_pattern_eq place
    exact List.ne_nil_of_mem (shape ▸ List.mem_cons_self)
  obtain ⟨rest, rfl⟩ := isPath.begins
  rw [table_of_assemble? valid assembled built, Table.find?_concat_plain _ elsewhere,
    Table.find?_under nonempty fills, found]
  rfl

/-- A request is dispatched to a binding through a route of a resource, behind something that the mount
stands for; the parameters of the mount come first. -/
theorem exists_lane_of_binding? (assembled : assemble? settings registry source = some application)
    {request : Request} {binding : Binding σ} {captures : Captures}
    (bound : application.binding? request = some (binding, captures)) :
    ∃ resource ∈ resources, ∃ lane front rest own caught,
      request.uri.path = front ++ rest ∧ Pattern.Fills settings.mountPattern front own ∧
        binding ∈ resource.bindingsOn lane ∧
        (resource.pattern lane).match? rest = some caught ∧ captures = own ++ caught := by
  have lists := Router.lists_of_build? held distinct built
  obtain ⟨bindings, found, reached⟩ := exists_route_of_binding? bound
  obtain ⟨pattern, member, matched⟩ := Table.exists_row_of_find? found
  rw [table_of_assemble? valid assembled built] at member
  rcases List.mem_append.mp member with isRoute | isHealth
  · obtain ⟨row, isRow, same⟩ := List.mem_map.mp isRoute
    obtain ⟨resource, present, lane, rfl⟩ := (lists row).mp isRow
    obtain ⟨rfl, isResource⟩ := Prod.mk.inj same
    cases isResource
    obtain ⟨front, rest, own, caught, path, fills, behind, captured⟩ :=
      resource.exists_fills_of_match? lane settings.parted_mountPattern matched
    exact ⟨resource, present, lane, front, rest, own, caught, path, fills, mem_of_endpoint reached,
      behind, captured⟩
  · cases (Prod.mk.inj (List.mem_singleton.mp isHealth)).2

/-- A mount without a colon stands for itself alone, and holds no parameters. -/
theorem eq_mount_of_fills (assembled : assemble? settings registry source = some application)
    (uncolored : ':' ∉ settings.mount) {front : List Char} {own : Captures}
    (fills : Pattern.Fills settings.mountPattern front own) : front = settings.mount ∧ own = [] := by
  have bears := bears_of_assemble? valid held distinct built assembled
  rw [Settings.mountPattern_of_plain bears.unstarred uncolored] at fills
  exact (Pattern.fills_plain_iff ..).mp fills

/-- A request is dispatched to a binding of a resource only if its path leads there. -/
theorem leads_of_binding? (assembled : assemble? settings registry source = some application)
    {request : Request} {binding : Binding σ} {captures : Captures}
    (bound : application.binding? request = some (binding, captures)) :
    ∃ resource ∈ resources, settings.Leads resource binding request.uri.path := by
  obtain ⟨resource, present, lane, front, rest, own, caught, path, fills, member, behind, _⟩ :=
    exists_lane_of_binding? valid held distinct built assembled bound
  refine ⟨resource, present, front, rest, own, lane, path, fills, fun uncolored => ?_, member,
    Option.isSome_iff_exists.mpr ⟨caught, behind⟩⟩
  exact (eq_mount_of_fills valid held distinct built assembled uncolored fills).1

/-- Under a mount with a colon, some request is dispatched whose path does not begin with the mount. -/
theorem exists_dispatched_elsewhere
    (assembled : assemble? settings registry source = some application)
    (colored : ':' ∈ settings.mount) {resource : BoundResource σ} (member : resource ∈ resources) :
    ∃ request found, application.binding? request = some found ∧
      ¬ settings.mount <+: request.uri.path := by
  have lists := Router.lists_of_build? held distinct built
  have bears := bears_of_assemble? valid held distinct built assembled
  have isOffer := List.mem_map_of_mem (f := BoundResource.offer) member
  have read := Settings.parseFrom_mount (bears.legible (List.ne_nil_of_mem isOffer)).1
  obtain ⟨front, own, fills, uncolored⟩ := Pattern.exists_fills_without_colon read
  have found := find?_mounted valid held distinct built assembled fills
    (lists.find?_collection distinct member (.inl rfl))
  refine ⟨⟨.get, ⟨front ++ resource.base, none⟩, [], [], none⟩,
    (resource.binding .fetchAll, own ++ []), ?_, fun begins => ?_⟩
  · simp only [binding?, found]
    rfl
  · rcases List.mem_append.mp (begins.subset colored) with inFront | inBase
    · exact uncolored inFront
    · exact resource.colon_not_mem_base inBase

end Registered

/-- With settings that pass their check and can be told to browsers, and resources of which a router
can be built, a server is assembled exactly if the mount bears the accepted offers. Requests are
dispatched to a resource of an assembled server only behind what the mount stands for; and as soon as
there is a colon in the mount and any resource, that is more than the mount itself. -/
theorem resources_mounted (settings : Settings) (offers : List (Offer σ)) (source : Source σ)
    (valid : settings.validate.isOk = true)
    (usable : (CrossOrigin.ofSettings settings.origins).isUsable = true) {router : Router σ}
    (built : Router.build? (Registration.run offers).registry
      ⟨source, settings.offices, settings.server.contextPath⟩ settings.cache = some router) :
    ((assemble? settings (Registration.run offers).registry source).isSome = true ↔
      settings.Bears (Registration.run offers).accepted) ∧
    ∃ resources : List (BoundResource σ),
      resources.map BoundResource.offer = (Registration.run offers).accepted ∧
      ∀ application, assemble? settings (Registration.run offers).registry source =
          some application →
        (∀ request binding captures, application.binding? request = some (binding, captures) →
          ∃ resource ∈ resources, settings.Leads resource binding request.uri.path) ∧
        (':' ∈ settings.mount → resources ≠ [] →
          ∃ request found, application.binding? request = some found ∧
            ¬ settings.mount <+: request.uri.path) := by
  obtain ⟨resources, holds⟩ := Registration.exists_holds_run offers
  refine ⟨?assembled, resources, holds.accepted, fun application assembled => ⟨?leads, ?elsewhere⟩⟩
  case assembled =>
    have apart : ¬(settings.origins.allowed = [] ∧ settings.origins.credentials = true) := by
      rwa [← CrossOrigin.every_and_credentials_iff, ← CrossOrigin.isUsable_iff]
    rw [isSome_assemble?_iff, bears_iff valid holds.bindings holds.distinct built, holds.accepted]
    exact and_iff_right apart
  case leads =>
    intro request binding captures bound
    exact leads_of_binding? valid holds.bindings holds.distinct built assembled bound
  case elsewhere =>
    intro colored nonempty
    obtain ⟨resource, member⟩ := List.exists_mem_of_ne_nil resources nonempty
    exact exists_dispatched_elsewhere valid holds.bindings holds.distinct built assembled colored
      member

/-- A mount with a parameter and separators behind it bears a resource, and some request reaches that
resource behind another path. -/
theorem colored_mount_bears :
    let settings : Settings := { Settings.standard with server.contextPath := "/:region/spk-data/" }
    let offers : List (Offer Unit) := [⟨"/a/\x7bid\x7d", {}, .writtenBy ["W"]⟩]
    let registry := (Registration.run offers).registry
    let source : Source Unit := .checkedByLease fun _ => .ok ()
    settings.validate.isOk = true ∧ (CrossOrigin.ofSettings settings.origins).isUsable = true ∧
      (∃ router, Router.build? registry ⟨source, settings.offices, settings.server.contextPath⟩
        settings.cache = some router) ∧
      settings.Bears (Registration.run offers).accepted ∧
      ∃ application, assemble? settings registry source = some application ∧
        ∃ request found, application.binding? request = some found ∧
          ¬ settings.mount <+: request.uri.path := by
  intro settings offers registry source
  have valid : settings.validate.isOk = true := by
    simp [settings, Settings.validate, Settings.standard]
    rfl
  have usable : (CrossOrigin.ofSettings settings.origins).isUsable = true := by decide +kernel
  have builds : (Router.build? registry ⟨source, settings.offices, settings.server.contextPath⟩
      settings.cache).isSome = true := by
    decide +kernel
  have assembles : (assemble? settings registry source).isSome = true := by decide +kernel
  have colored : ':' ∈ settings.mount := by decide +kernel
  have accepted : (Registration.run offers).accepted.length = 1 := by decide +kernel
  obtain ⟨router, built⟩ := Option.isSome_iff_exists.mp builds
  obtain ⟨application, assembled⟩ := Option.isSome_iff_exists.mp assembles
  obtain ⟨bears, resources, same, served⟩ :=
    resources_mounted settings offers source valid usable built
  have nonempty : resources ≠ [] := by
    rintro rfl
    rw [← same] at accepted
    cases accepted
  obtain ⟨_, elsewhere⟩ := served application assembled
  exact ⟨valid, usable, ⟨router, built⟩, bears.mp assembles, application, assembled,
    elsewhere colored nonempty⟩

/-- Three context paths that pass the check of the settings. Under the first nothing can be mounted;
at the root a resource takes the path of the health check, and no server can be assembled although
there is a router; under the third a request is dispatched whose path does not begin with it. -/
theorem context_path_not_literal :
    let source : Source Unit := .checkedByLease fun _ => .ok ()
    let engine : Engine Unit := ⟨source, .derived, "/"⟩
    let mounted (path : String) : Settings := { Settings.standard with server.contextPath := path }
    let offering (text : String) : Registry Unit :=
      (Registration.run [⟨text, {}, .writtenBy ["W"]⟩]).registry
    let request : Request := ⟨.get, ⟨"/x/a".toList, none⟩, [], [], none⟩
    (∀ path ∈ ["/a*b", "/", "/:t"], (mounted path).validate.isOk = true ∧
        (CrossOrigin.ofSettings (mounted path).origins).isUsable = true) ∧
      (assemble? (mounted "/a*b") .empty source).isSome = false ∧
      ((Router.build? (offering "/health/\x7bid\x7d") engine .standard).isSome = true ∧
        (assemble? (mounted "/") (offering "/health/\x7bid\x7d") source).isSome = false) ∧
      ((assemble? (mounted "/:t") (offering "/a/\x7bid\x7d") source).bind fun application =>
          (application.binding? request).map fun found => found.1.operation) = some .fetchAll ∧
        ¬ (mounted "/:t").mount <+: request.uri.path := by
  intro source engine mounted offering request
  refine ⟨?_, by decide +kernel, by decide +kernel, by decide +kernel, by decide +kernel⟩
  have usable : (CrossOrigin.ofSettings Settings.standard.origins).isUsable = true := by
    decide +kernel
  intro path listed
  refine ⟨?_, usable⟩
  simp only [List.mem_cons, List.not_mem_nil, or_false] at listed
  rcases listed with rfl | rfl | rfl
  all_goals
    simp [mounted, Settings.validate, Settings.standard]
    rfl

end Application

end Sluice.Server
