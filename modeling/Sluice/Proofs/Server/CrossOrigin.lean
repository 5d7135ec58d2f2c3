import Sluice.Proofs.Category.Statements
import Sluice.Proofs.Server.Answers
import Sluice.Proofs.Text.Utf8

/-!
# What browsers are told

Two fields tell browsers who may use an answer: one allows an origin, or all of them with the mark,
and one allows credentials. A browser does not take credentials together with the mark, and a server
whose settings would have the two told together cannot be assembled. Every list of origins but the
empty one keeps them apart, `CrossOrigin.every_and_credentials_iff`. What an assembled server tells is
settled by its settings and the origin of the request, `Application.all_origin_serve` and
`Application.all_credentials_serve`, as long as operations do not set these fields themselves.
-/

namespace Sluice.Http

/-- Different texts are different values. -/
theorem HeaderValue.ofText_injective : Function.Injective HeaderValue.ofText := by
  intro first second same
  have decoded := congrArg Text.Utf8.decode? same
  rw [ofText, ofText, Text.Utf8.encode, Text.Utf8.encode, Text.Utf8.decode?_encodeChars,
    Text.Utf8.decode?_encodeChars, String.ofList_toList, String.ofList_toList] at decoded
  exact Option.some.inj decoded

end Sluice.Http

namespace Sluice.Resource

variable {σ : Type}

/-- The operations of a registry reply without a field. -/
def Registry.Omits (registry : Registry σ) (name : String) : Prop :=
  ∀ binding ∈ registry.bindings, ∀ context identifier request store reply,
    (binding.invocation.act context identifier request store).result = .ok reply →
      reply.headers.all name = []

end Sluice.Resource

namespace Sluice.Category

open Resource

/-- Replies about categories have no fields at all. -/
theorem omits_registry {policy : AccessPolicy} {registry : Registry Database.Session}
    (built : Category.registry policy = .ok registry) (name : String) : registry.Omits name := by
  intro binding member context identifier request store reply replied
  rw [((confined_binding built member context identifier request).bare store reply replied).1]
  rfl

end Sluice.Category

namespace Sluice.Server

open Resource

variable {σ : Type}

namespace CrossOrigin

/-- The field that allows an origin. -/
def originField : String := "access-control-allow-origin"

/-- The field that allows credentials. -/
def credentialsField : String := "access-control-allow-credentials"

/-! ## Settings -/

/-- A list without the mark is told as a list, unless it is empty. -/
theorem exists_listed {settings : OriginSettings} (nonempty : settings.allowed ≠ [])
    (unmarked : wildcard ∉ settings.allowed) :
    ∃ origins, (ofSettings settings).origins = .listed origins := by
  have isEmpty : settings.allowed.isEmpty = false := List.isEmpty_eq_false_iff.mpr nonempty
  have contains : settings.allowed.contains wildcard = false := by
    rw [← Bool.not_eq_true, List.contains_iff_mem]
    exact unmarked
  exact ⟨_, by simp only [ofSettings, isEmpty, contains]; rfl⟩

/-- A listed origin that can be told is one of the settings, and the mark is none of them. -/
theorem mem_listed {settings : OriginSettings} {origins : List Http.HeaderValue}
    (listed : (ofSettings settings).origins = .listed origins) {origin : Http.HeaderValue}
    (member : origin ∈ origins) :
    origin ≠ .ofText wildcard ∧ ∃ text ∈ settings.allowed, origin = .ofText text := by
  simp only [ofSettings] at listed
  split at listed
  · cases listed
  · next unmarked =>
    cases listed
    simp only [Bool.or_eq_true, not_or, List.contains_iff_mem] at unmarked
    obtain ⟨isListed, _⟩ := List.mem_filter.mp member
    obtain ⟨text, isAllowed, rfl⟩ := List.mem_map.mp isListed
    refine ⟨fun same => unmarked.2 ?_, text, isAllowed, rfl⟩
    exact Http.HeaderValue.ofText_injective same ▸ isAllowed

/-- The mark and credentials meet for the empty list alone. -/
theorem every_and_credentials_iff (settings : OriginSettings) :
    (ofSettings settings).origins = .every ∧ (ofSettings settings).credentials = true ↔
      settings.allowed = [] ∧ settings.credentials = true := by
  obtain ⟨allowed, credentials⟩ := settings
  cases allowed with
  | nil => simp [ofSettings]
  | cons origin rest =>
    simp only [ofSettings, List.isEmpty_cons, Bool.false_or, reduceCtorEq, false_and, iff_false]
    cases (origin :: rest).contains wildcard <;> simp

theorem isUsable_iff (cross : CrossOrigin) :
    cross.isUsable = true ↔ ¬(cross.origins = .every ∧ cross.credentials = true) := by
  obtain ⟨origins, credentials⟩ := cross
  cases credentials <;> simp [isUsable]

/-! ## Fields of single answers -/

/-- The allowed origin takes the place of any that the answer has. -/
theorem all_origin_shared (cross : CrossOrigin) (request answer : Http.Headers)
    (bare : answer.all originField = []) :
    (cross.shared request answer).all originField = (cross.allowedFor request).toList := by
  have other : "access-control-allow-credentials" ≠ originField := by decide
  have kept (headers : Http.Headers) :
      (if cross.credentials then headers.setText "access-control-allow-credentials" "true"
        else headers).all originField = headers.all originField := by
    split
    · rw [Http.Headers.setText, Http.Headers.all_set, if_neg other]
    · rfl
  rw [shared, kept]
  cases cross.allowedFor request with
  | none => exact bare
  | some origin => exact Http.Headers.all_set ..

theorem all_credentials_shared (cross : CrossOrigin) (request answer : Http.Headers)
    (bare : answer.all credentialsField = []) :
    (cross.shared request answer).all credentialsField =
      if cross.credentials then [.ofText "true"] else [] := by
  have other : "access-control-allow-origin" ≠ credentialsField := by decide
  unfold shared
  cases cross.credentials with
  | true => exact Http.Headers.all_set ..
  | false =>
    cases cross.allowedFor request with
    | none => exact bare
    | some origin => exact (Http.Headers.all_set ..).trans ((if_neg other).trans bare)

/-- The names of the two fields. -/
def toldFields : List String := [originField, credentialsField]

theorem ne_of_told {name field : String} (isTold : name ∈ toldFields) (other : field ∉ toldFields) :
    field ≠ name :=
  fun same => other (same ▸ isTold)

/-- The other fields for browsers have names of their own. -/
theorem all_preflight (cross : CrossOrigin) (request : Http.Headers) {name : String}
    (isTold : name ∈ toldFields) :
    (cross.preflight request).headers.all name = (cross.shared request []).all name := by
  have others : "vary" ≠ name ∧ "access-control-allow-methods" ≠ name ∧
      "access-control-allow-headers" ≠ name ∧ "access-control-max-age" ≠ name :=
    ⟨ne_of_told isTold (by decide), ne_of_told isTold (by decide), ne_of_told isTold (by decide),
      ne_of_told isTold (by decide)⟩
  simp only [preflight, Http.Headers.setText, Http.Headers.all_set, others, if_false]

theorem all_told (cross : CrossOrigin) (request : Http.Headers) (response : Http.Response)
    {name : String} (isTold : name ∈ toldFields) :
    (cross.told request response).headers.all name =
      (cross.shared request (response.headers.append "vary" (.ofText varying))).all name := by
  have exposed : "access-control-expose-headers" ≠ name := ne_of_told isTold (by decide)
  simp only [told, Http.Headers.setText, Http.Headers.all_set, exposed, if_false]

/-- What every answer is told touches no other field. -/
theorem all_shared_of_ne (cross : CrossOrigin) (request answer : Http.Headers) {name : String}
    (origin : originField ≠ name) (credentials : credentialsField ≠ name) :
    (cross.shared request answer).all name = answer.all name := by
  rw [originField] at origin
  rw [credentialsField] at credentials
  unfold shared
  cases cross.credentials <;> cases cross.allowedFor request <;>
    simp [Http.Headers.setText, Http.Headers.all_set, origin, credentials]

end CrossOrigin

namespace Application

open CrossOrigin

variable {settings : Settings} {registry : Registry σ} {source : Source σ}
  {application : Application σ}

/-- A server can be assembled exactly if the mark and credentials do not meet, something can be
mounted under the context path, and the routes can stand together. -/
theorem isSome_assemble?_iff (settings : Settings) (registry : Registry σ) (source : Source σ) :
    (assemble? settings registry source).isSome = true ↔
      ¬(settings.origins.allowed = [] ∧ settings.origins.credentials = true) ∧
        hasRestMark (withoutTrailing settings.server.contextPath) = false ∧
        (Route.Table.build? (destinations registry
          (withoutTrailing settings.server.contextPath))).isSome = true := by
  rw [← every_and_credentials_iff, ← isUsable_iff]
  simp only [assemble?]
  cases hasRestMark (withoutTrailing settings.server.contextPath) <;>
    cases (CrossOrigin.ofSettings settings.origins).isUsable <;> simp

/-- An answer has no field that is not the server's if operations reply without it. -/
theorem all_answer_of_omits (assembled : assemble? settings registry source = some application)
    {name : String} (foreign : name ∉ serverFields) (omits : registry.Omits name)
    (request : Request) (incident : Incident) (shared : Shared σ) :
    (application.answer request incident shared).response.headers.all name = [] := by
  cases bound : application.binding? request with
  | none =>
    rcases answer_of_unbound bound incident shared with plain | plain
    · exact plain.fields name foreign
    · exact plain.fields name foreign
  | some found =>
    obtain ⟨binding, captures⟩ := found
    rcases answer_of_bound bound incident shared with plain | ⟨caller, identifier, acted⟩
    · exact plain.fields name foreign
    · rw [acted.fields name foreign]
      split
      · next reply replied =>
        exact omits binding (mem_of_binding? assembled bound) _ _ _ _ reply replied
      · rfl

/-- A field for browsers stands in an answer as every answer has it. -/
theorem exists_all_serve (assembled : assemble? settings registry source = some application)
    {name : String} (isTold : name ∈ toldFields) (omits : registry.Omits name) (request : Request)
    (incident : Incident) (shared : Shared σ) :
    ∃ bare : Http.Headers, bare.all name = [] ∧
      (application.serve request incident shared).response.headers.all name =
        (application.cross.shared request.headers bare).all name := by
  have foreign : name ∉ serverFields :=
    (by decide : ∀ field ∈ toldFields, field ∉ serverFields) name isTold
  have vary := ne_of_foreign foreign (by decide : "vary" ∈ serverFields)
  rw [all_serve application request incident shared foreign]
  -- The answer to a question starts without fields, any other with those of its reply.
  split
  · exact ⟨[], rfl, application.cross.all_preflight request.headers isTold⟩
  · refine ⟨_, ?_, application.cross.all_told request.headers _ isTold⟩
    rw [Http.Headers.all_append, if_neg vary, List.append_nil, all_coded _ _ foreign,
      all_withLength _ foreign]
    exact all_answer_of_omits assembled foreign omits request incident shared

/-- Every answer allows the origin that the settings allow for the request, and no other. -/
theorem all_origin_serve (assembled : assemble? settings registry source = some application)
    (omits : registry.Omits originField) (request : Request) (incident : Incident)
    (shared : Shared σ) :
    (application.serve request incident shared).response.headers.all originField =
      (application.cross.allowedFor request.headers).toList := by
  obtain ⟨headers, bare, same⟩ :=
    exists_all_serve assembled (by decide : originField ∈ toldFields) omits request incident shared
  rw [same, application.cross.all_origin_shared request.headers headers bare]

/-- Every answer allows credentials if the settings do. -/
theorem all_credentials_serve (assembled : assemble? settings registry source = some application)
    (omits : registry.Omits credentialsField) (request : Request) (incident : Incident)
    (shared : Shared σ) :
    (application.serve request incident shared).response.headers.all credentialsField =
      if application.cross.credentials then [.ofText "true"] else [] := by
  obtain ⟨headers, bare, same⟩ := exists_all_serve assembled
    (by decide : credentialsField ∈ toldFields) omits request incident shared
  rw [same, application.cross.all_credentials_shared request.headers headers bare]

/-- The mark and credentials are never told together. -/
theorem not_mark_of_credentials (assembled : assemble? settings registry source = some application)
    (credentials : application.cross.credentials = true) (headers : Http.Headers) :
    application.cross.allowedFor headers ≠ some (.ofText wildcard) := by
  obtain ⟨_, ofSettings, usable⟩ := parts_of_assemble? assembled
  intro marked
  -- The mark is told for all origins, which is not usable with credentials, and is never listed.
  unfold allowedFor at marked
  split at marked
  · next every =>
    simp only [isUsable, credentials, every] at usable
    cases usable
  · next origins listed =>
    obtain ⟨_, isListed⟩ := Option.filter_eq_some_iff.mp marked
    rw [ofSettings] at listed
    exact (mem_listed listed (List.contains_iff_mem.mp isListed)).1 rfl

/-- Settings combine the mark with credentials exactly if they list no origin and allow credentials;
that apart, they do not keep a server from being assembled. What an assembled server tells is safe for
any request: the mark never stands beside credentials, and where the mark is not among the origins of a
list that is not empty, a request from none of them is allowed no origin. -/
theorem origins_told (settings : Settings) (registry : Registry σ) (source : Source σ)
    (omitsOrigin : registry.Omits originField)
    (omitsCredentials : registry.Omits credentialsField) :
    ((CrossOrigin.ofSettings settings.origins).origins = .every ∧
        (CrossOrigin.ofSettings settings.origins).credentials = true ↔
      settings.origins.allowed = [] ∧ settings.origins.credentials = true) ∧
    ((assemble? settings registry source).isSome = true ↔
      ¬(settings.origins.allowed = [] ∧ settings.origins.credentials = true) ∧
        hasRestMark (withoutTrailing settings.server.contextPath) = false ∧
        (Route.Table.build? (destinations registry
          (withoutTrailing settings.server.contextPath))).isSome = true) ∧
    ∀ application, assemble? settings registry source = some application →
      ∀ request incident shared,
        let fields := (application.serve request incident shared).response.headers
        ¬(.ofText wildcard ∈ fields.all originField ∧ fields.has credentialsField = true) ∧
        (settings.origins.allowed ≠ [] → wildcard ∉ settings.origins.allowed →
          (∀ origin ∈ settings.origins.allowed,
            request.headers.first? "origin" ≠ some (.ofText origin)) →
          fields.has originField = false) := by
  refine ⟨every_and_credentials_iff settings.origins,
    isSome_assemble?_iff settings registry source, ?_⟩
  intro application assembled request incident shared fields
  have origin := all_origin_serve assembled omitsOrigin request incident shared
  have credentials := all_credentials_serve assembled omitsCredentials request incident shared
  constructor
  case left =>
    rintro ⟨marked, told⟩
    rw [origin, Option.mem_toList] at marked
    cases allows : application.cross.credentials with
    | true => exact not_mark_of_credentials assembled allows request.headers marked
    | false =>
      rw [allows, if_neg Bool.false_ne_true, ← Http.Headers.has_eq_false_iff] at credentials
      exact Bool.false_ne_true (credentials.symm.trans told)
  case right =>
    intro nonempty unmarked elsewhere
    obtain ⟨_, ofSettings, _⟩ := parts_of_assemble? assembled
    rw [Http.Headers.has_eq_false_iff, origin, Option.toList_eq_nil_iff, allowedFor, ofSettings]
    obtain ⟨origins, listed⟩ := exists_listed nonempty unmarked
    rw [listed, Option.filter_eq_none_iff]
    intro asked isAsked isListed
    obtain ⟨_, text, isAllowed, rfl⟩ := mem_listed listed (List.contains_iff_mem.mp isListed)
    exact elsewhere text isAllowed isAsked

/-- A page from elsewhere asks for a category where one origin is listed and credentials are allowed. -/
theorem foreign_page_not_told :
    let settings : Settings :=
      { Settings.standard with origins := ⟨["https://water.example"], true⟩ }
    let request : Request :=
      ⟨.get, ⟨"/cwms-data/location/category/Basin".toList, none⟩,
        [⟨"origin", .ofText "https://elsewhere.example"⟩], [], none⟩
    ∃ registry application, Category.registry settings.access.policy = .ok registry ∧
      registry.Omits originField ∧ registry.Omits credentialsField ∧
      assemble? settings registry Category.source = some application ∧
      settings.origins.allowed ≠ [] ∧ wildcard ∉ settings.origins.allowed ∧
      (∀ origin ∈ settings.origins.allowed,
        request.headers.first? "origin" ≠ some (.ofText origin)) ∧
      ∀ incident shared,
        (application.serve request incident shared).response.headers.has originField = false := by
  intro settings request
  have builds : (match Category.registry settings.access.policy with
      | .ok registry => (assemble? settings registry Category.source).isSome
      | .error _ => false) = true := by
    decide +kernel
  split at builds
  · next registry built =>
    obtain ⟨application, assembled⟩ := Option.isSome_iff_exists.mp builds
    have omitsOrigin := Category.omits_registry built originField
    have omitsCredentials := Category.omits_registry built credentialsField
    have nonempty : settings.origins.allowed ≠ [] := by decide
    have unmarked : wildcard ∉ settings.origins.allowed := by decide
    have elsewhere : ∀ origin ∈ settings.origins.allowed,
        request.headers.first? "origin" ≠ some (.ofText origin) := by
      decide
    obtain ⟨_, _, told⟩ :=
      origins_told settings registry Category.source omitsOrigin omitsCredentials
    exact ⟨registry, application, built, omitsOrigin, omitsCredentials, assembled, nonempty, unmarked,
      elsewhere, fun incident shared =>
        (told application assembled request incident shared).2 nonempty unmarked elsewhere⟩
  · cases builds

/-- Settings that pass their check list no origin and allow credentials, and no server can be assembled
with them. -/
theorem empty_list_with_credentials_not_assembled :
    let vars : Variables := fun name =>
      [("CORS_ALLOWED_ORIGINS", ""), ("CORS_ALLOW_CREDENTIALS", "true")].lookup name
    let source : Source Unit := .checkedByLease fun _ => .ok ()
    ∃ settings, Settings.load vars = .ok (settings, []) ∧
      CrossOrigin.ofSettings settings.origins = ⟨.every, true⟩ ∧
      (assemble? { settings with origins.credentials := false } .empty source).isSome = true ∧
      assemble? settings .empty source = none := by
  intro vars source
  refine ⟨{ Settings.standard with origins := ⟨[], true⟩ }, ?_, ?_, ?_, ?_⟩
  · decide +kernel
  · decide +kernel
  · decide +kernel
  · rfl

end Application

end Sluice.Server
