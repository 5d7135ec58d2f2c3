import Sluice.Proofs.Resource.OfferedMethods
import Sluice.Proofs.Server.Rebasing

/-!
# Requests for the methods of a path

A router of resources answers the request for the methods of a path with their list. A server takes
every such request for a browser's question, whatever its headers are, and answers it in front of the
resources. So what a server answers depends on nothing but the headers: it allows the methods that any
resource may have, and the list of the path is never asked for.
-/

namespace Sluice.Server

open Resource Route

variable {σ : Type}

/-- A browser is not told the methods of a path. -/
theorem CrossOrigin.all_allow_preflight (cross : CrossOrigin) (request : Http.Headers) :
    (cross.preflight request).headers.all "allow" = [] := by
  have bare : (cross.shared request []).all "allow" = [] :=
    cross.all_shared_of_ne request [] (by decide) (by decide)
  simp [preflight, Http.Headers.setText, Http.Headers.all_set, bare]

/-- How the request for the methods of a path is answered by a router of resources, which gets the rest
of the path, and by a server that has them mounted. -/
structure Withheld (application : Application σ) (router : Router σ) (request : Request)
    (path : List Char) (incident : Incident) (shared : Shared σ) : Prop where
  /-- Both find the same bindings, and the router sends the list of their methods. -/
  listed : ∃ bindings own captures text,
    router.table.find? path = some (bindings, captures) ∧
    application.table.find? request.uri.path = some (.resource bindings, own ++ captures) ∧
    Text.items ',' text = offeredNames bindings ∧
    (router.serve (request.atPath path) incident shared).response.status = 204 ∧
    (router.serve (request.atPath path) incident shared).response.headers.all "allow" =
      [.ofText text]
  /-- The server answers the question of a browser, with regard to the headers only. -/
  asked : application.serve request incident shared =
    ⟨(application.cross.preflight request.headers).withLength, shared, []⟩
  status : (application.serve request incident shared).response.status = 200
  unlisted : (application.serve request incident shared).response.headers.all "allow" = []
  empty : (application.serve request incident shared).response.body = .none

namespace Application

variable {settings : Settings} {registry : Registry σ} {source : Source σ}
  {application : Application σ} {resources : List (BoundResource σ)}

/-- On the route of a resource, the request for the methods of the path is a browser's question. -/
theorem serve_of_question {request : Request} {bindings : List (Binding σ)} {captures : Captures}
    (found : application.table.find? request.uri.path = some (.resource bindings, captures))
    (options : request.method = .options) (incident : Incident) (shared : Shared σ) :
    application.serve request incident shared =
      ⟨(application.cross.preflight request.headers).withLength, shared, []⟩ := by
  have notHead : Http.Method.options ≠ .head := by decide
  simp only [serve, found, options, beq_self_eq_true, if_true, answering, withAllow, endpoint,
    forMethod, notHead, if_false]

/-- What an assembled server finds behind its mount has a list of methods that is withheld. -/
theorem withheld_of_find? {router : Router σ} (lists : router.Lists resources) {request : Request}
    {path : List Char} {bindings : List (Binding σ)} {own caught : Captures}
    (found : router.table.find? path = some (bindings, caught))
    (behind : application.table.find? request.uri.path = some (.resource bindings, own ++ caught))
    (options : request.method = .options) (incident : Incident) (shared : Shared σ) :
    Withheld application router request path incident shared := by
  have sameMethod : (request.atPath path).method = .options := options
  have told := Router.serve_of_options found sameMethod incident shared
  have asked := serve_of_question behind options incident shared
  constructor
  case listed =>
    refine ⟨bindings, own, caught, offeredMethods bindings, found, behind,
      (lists.areApart_of_find? found).items_offeredMethods, ?_, ?_⟩
    · rw [told]
    · rw [told]
      simp [Http.Headers.all]
  case asked => exact asked
  case status =>
    rw [asked, status_withLength]
    rfl
  case unlisted =>
    rw [asked, all_withLength_of_kept _ (.inl (by decide)), CrossOrigin.all_allow_preflight]
  case empty =>
    rw [asked, body_withLength]
    rfl

/-- Whatever settings pass their check and whatever has been offered, a server that is assembled of
them withholds the methods of every path of an accepted resource, behind whatever the mount stands for,
the mount itself not excepted. -/
theorem offered_methods_withheld (settings : Settings) (offers : List (Offer σ)) (source : Source σ)
    (valid : settings.validate.isOk = true) {application : Application σ}
    (assembled : assemble? settings (Registration.run offers).registry source = some application) :
    ∃ (resources : List (BoundResource σ)) (router : Router σ),
      resources.map BoundResource.offer = (Registration.run offers).accepted ∧
      Router.build? (Registration.run offers).registry
        ⟨source, settings.offices, settings.server.contextPath⟩ settings.cache = some router ∧
      (resources ≠ [] →
        ∃ own, Pattern.Fills settings.mountPattern settings.mount own) ∧
      ∀ resource ∈ resources, ∀ (front path : List Char) (own : Captures) (request : Request)
        (incident : Incident) (shared : Shared σ),
        Pattern.Fills settings.mountPattern front own → resource.Matches path →
        request.uri.path = front ++ path → request.method = .options →
          Withheld application router request path incident shared := by
  obtain ⟨resources, holds⟩ := Registration.exists_holds_run offers
  obtain ⟨router, built⟩ := exists_router_of_assemble? valid holds.bindings holds.distinct assembled
    ⟨source, settings.offices, settings.server.contextPath⟩ settings.cache
  have lists := Router.lists_of_build? holds.bindings holds.distinct built
  have bears := bears_of_assemble? valid holds.bindings holds.distinct built assembled
  refine ⟨resources, router, holds.accepted, built, ?own, ?withheld⟩
  case own =>
    intro nonempty
    obtain ⟨resource, member⟩ := List.exists_mem_of_ne_nil resources nonempty
    have isOffer := List.mem_map_of_mem (f := BoundResource.offer) member
    have read := Settings.parseFrom_mount (bears.legible (List.ne_nil_of_mem isOffer)).1
    exact ⟨_, Pattern.fills_own read⟩
  case withheld =>
    intro resource member front path own request incident shared fills matched split options
    obtain ⟨⟨bindings, caught⟩, found⟩ := Option.isSome_iff_exists.mp
      (lists.isSome_find?_of_matches holds.distinct member matched)
    have behind := find?_mounted valid holds.bindings holds.distinct built assembled fills found
    rw [← split] at behind
    exact withheld_of_find? lists found behind options incident shared

/-- The methods of a collection are withheld under the standard settings. -/
theorem collection_methods_withheld :
    let settings : Settings := .standard
    let offers : List (Offer Unit) := [⟨"/a/\x7bx\x7d", {}, .writtenBy ["W"]⟩]
    let registry := (Registration.run offers).registry
    let source : Source Unit := .checkedByLease fun _ => .ok ()
    let path := "/a".toList
    let request : Request := ⟨.options, ⟨"/cwms-data/a".toList, none⟩, [], [], none⟩
    settings.validate.isOk = true ∧ request.uri.path = settings.mount ++ path ∧
      request.method = .options ∧
      ∃ application router, assemble? settings registry source = some application ∧
        Router.build? registry ⟨source, settings.offices, settings.server.contextPath⟩
          settings.cache = some router ∧
        (∃ own, Pattern.Fills settings.mountPattern settings.mount own) ∧
        (∃ resource : BoundResource Unit, resource.offer ∈ (Registration.run offers).accepted ∧
          resource.Matches path) ∧
        ∀ incident shared, Withheld application router request path incident shared := by
  intro settings offers registry source path request
  have valid : settings.validate.isOk = true := by decide +kernel
  have assembles : (assemble? settings registry source).isSome = true := by decide +kernel
  have texts : (Registration.run offers).accepted.map Offer.text = ["/a/\x7bx\x7d"] := by
    decide +kernel
  have split : request.uri.path = settings.mount ++ path := by decide +kernel
  obtain ⟨application, assembled⟩ := Option.isSome_iff_exists.mp assembles
  obtain ⟨resources, router, accepted, built, stands, withheld⟩ :=
    offered_methods_withheld settings offers source valid assembled
  rw [← accepted, List.map_map, List.map_eq_singleton_iff] at texts
  obtain ⟨resource, rfl, text⟩ := texts
  have member : resource ∈ [resource] := List.mem_cons_self
  obtain ⟨own, fills⟩ := stands (List.ne_nil_of_mem member)
  have base : resource.base = path := by
    have written : resource.offer.text = "/a/\x7bx\x7d" := text
    change Template.pathChars (Template.segmentChars resource.offer.text.toList).dropLast = _
    rw [written]
    decide +kernel
  have matched : resource.Matches path := (resource.matches_iff path).mpr (.inl (.inl base.symm))
  exact ⟨valid, split, rfl, application, router, assembled, built, ⟨own, fills⟩,
    ⟨resource, accepted ▸ List.mem_map_of_mem member, matched⟩, fun incident shared =>
      withheld resource member settings.mount path own request incident shared fills matched split
        rfl⟩

/-- Someone asks for the methods of a collection, with no header at all and so not as a browser does. A
read and a creation are bound there; the router tells them, and the server answers with another status
and without them. -/
theorem methods_asked_without_allow :
    let settings : Settings := .standard
    let registry := (Registration.run [(⟨"/a/\x7bx\x7d", {}, .writtenBy ["W"]⟩ : Offer Unit)]).registry
    let source : Source Unit := .checkedByLease fun _ => .ok ()
    let request : Request := ⟨.options, ⟨"/cwms-data/a".toList, none⟩, [], [], none⟩
    let told (exchange : Exchange Unit) :=
      (exchange.response.status, exchange.response.headers.all "allow")
    settings.validate.isOk = true ∧ registry.Matches "/a" "/a".toList [] ∧
      (registry.bindingsOn "/a").map (·.method) = [.get, .post] ∧
      (assemble? settings registry source).map (fun application =>
        told (application.serve request ⟨0⟩ (.start ()))) = some (200, []) ∧
      (Router.build? registry ⟨source, settings.offices, settings.server.contextPath⟩
          settings.cache).map (fun router =>
        told (router.serve (request.atPath "/a".toList) ⟨0⟩ (.start ()))) =
          some (204, [.ofText "GET, POST, OPTIONS"]) := by
  intro settings registry source request told
  have valid : settings.validate.isOk = true := by decide +kernel
  exact ⟨valid, ⟨by decide +kernel, by decide +kernel⟩, by decide +kernel, by decide +kernel,
    by decide +kernel⟩

end Application

end Sluice.Server
