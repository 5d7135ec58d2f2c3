import Sluice.Proofs.Server.FailureAnswers
import Sluice.Proofs.Server.Roles

/-!
# Identity headers that cannot be read

Of the headers that name a caller, the first value of the user header is looked at, and only if there is
one are the values of the roles header. `Caller.Refuses` says for which reason headers are refused; all
others are read, as those of nobody or of the caller whom they name. So something that cannot be read is
overlooked in two places: in the roles header of a request without a user, and behind the first value of
the user header. `Caller.isUnreadable_iff` says that there are no more, and a server that believes the
headers serves the requests of both kinds.
-/

namespace Sluice.Resource.Caller

/-- Headers in which something about the caller cannot be read: a value of either header cannot be shown,
or a value of the user header is blank. -/
def IsUnreadable (headers : Http.Headers) : Prop :=
  (∃ value ∈ headers.all userHeader ++ headers.all rolesHeader, value.text? = none) ∨
    ∃ value ∈ headers.all userHeader, ∃ text, value.text? = some text ∧ Text.isBlankText text = true

/-- The reason for which headers are refused. -/
inductive Refuses (headers : Http.Headers) : String → Prop where
  | hiddenUser {value : Http.HeaderValue} (first : headers.first? userHeader = some value)
      (hidden : value.text? = none) : Refuses headers "user header is not valid text"
  | blankUser {value : Http.HeaderValue} {text : String}
      (first : headers.first? userHeader = some value) (shown : value.text? = some text)
      (blank : Text.isBlankText text = true) : Refuses headers "user header is empty"
  | hiddenRoles {value other : Http.HeaderValue} {text : String}
      (first : headers.first? userHeader = some value) (shown : value.text? = some text)
      (notBlank : Text.isBlankText text = false) (member : other ∈ headers.all rolesHeader)
      (hidden : other.text? = none) : Refuses headers "roles header is not valid text"

/-- Headers in which something about the caller cannot be read where nobody looks: there is no user, or
there is one whose header has a further value. -/
def IsOverlooked (headers : Http.Headers) : Prop :=
  (headers.all userHeader = [] ∧ ∃ value ∈ headers.all rolesHeader, value.text? = none) ∨
    (IsNamed headers ∧ ∃ value ∈ (headers.all userHeader).tail,
      ∀ text, value.text? = some text → Text.isBlankText text = true)

/-- The caller whom headers name: the name is the trimmed first value of the user header, and the roles
are those of all values of the roles header. -/
structure IsCallerOf (headers : Http.Headers) (caller : Caller) : Prop where
  name : ∃ value text, headers.first? userHeader = some value ∧ value.text? = some text ∧
    Text.trim text = caller.name
  nameless : caller.name ≠ ""
  roles : ∀ role, role ∈ caller.roles ↔ GivesRole headers role

/-! ## Reading -/

variable {headers : Http.Headers}

/-- A value of the user header that comes first is one of its values. -/
theorem mem_all_of_first? {value : Http.HeaderValue} (first : headers.first? userHeader = some value) :
    value ∈ headers.all userHeader := by
  rw [Http.Headers.first?_eq_head?] at first
  exact List.mem_of_mem_head? first

/-- Values one of which cannot be shown are refused. -/
theorem rolesOfValues_of_hidden {values : List Http.HeaderValue}
    (hidden : ∃ value ∈ values, value.text? = none) :
    rolesOfValues values = .error (refused "roles header is not valid text") := by
  induction values with
  | nil => simp at hidden
  | cons value rest ih =>
    cases shown : value.text? with
    | none => simp only [rolesOfValues, shown]
    | some text =>
      have behind : ∃ other ∈ rest, Http.HeaderValue.text? other = none := by
        simpa [shown] using hidden
      simp only [rolesOfValues, shown, ih behind, Except.map]

/-- Headers are refused for their reason. -/
theorem ofHeaders_of_refuses {reason : String} (refuses : Refuses headers reason) :
    ofHeaders headers = .error (refused reason) := by
  cases refuses with
  | hiddenUser first hidden => simp only [ofHeaders, first, hidden]
  | blankUser first shown blank =>
    simp only [ofHeaders, first, shown, Text.trimmed?_eq_none_iff.mpr blank]
  | hiddenRoles first shown notBlank member hidden =>
    obtain ⟨name, trimmed⟩ := Option.isSome_iff_exists.mp (Text.isSome_trimmed?_iff.mpr notBlank)
    simp only [ofHeaders, first, shown, trimmed, rolesOfValues_of_hidden ⟨_, member, hidden⟩, Except.map]

/-- Headers name nobody, or name a caller, or are refused. -/
theorem unnamed_or_named_or_refused (headers : Http.Headers) :
    headers.all userHeader = [] ∨ IsNamed headers ∨ ∃ reason, Refuses headers reason := by
  cases first : headers.first? userHeader with
  | none =>
    rw [Http.Headers.first?_eq_head?, List.head?_eq_none_iff] at first
    exact .inl first
  | some value =>
    right
    cases shown : value.text? with
    | none => exact .inr ⟨_, .hiddenUser first shown⟩
    | some text =>
      cases blank : Text.isBlankText text with
      | true => exact .inr ⟨_, .blankUser first shown blank⟩
      | false =>
        by_cases readable : ∀ value ∈ headers.all rolesHeader, value.text?.isSome = true
        · exact .inl ⟨⟨value, text, first, shown, blank⟩, readable⟩
        · push Not at readable
          obtain ⟨other, member, hidden⟩ := readable
          exact .inr ⟨_, .hiddenRoles first shown blank member (by simpa using hidden)⟩

/-- Only headers that name a caller are read as those of one. -/
theorem isNamed_of_ofHeaders {caller : Caller} (read : ofHeaders headers = .ok (some caller)) :
    IsNamed headers := by
  rcases unnamed_or_named_or_refused headers with unnamed | named | ⟨reason, refuses⟩
  · rw [ofHeaders_of_unnamed unnamed] at read
    cases read
  · exact named
  · rw [ofHeaders_of_refuses refuses] at read
    cases read

/-- They are read as those of the caller whom they name. -/
theorem isCallerOf_of_ofHeaders {caller : Caller} (read : ofHeaders headers = .ok (some caller)) :
    IsCallerOf headers caller := by
  have named := isNamed_of_ofHeaders read
  obtain ⟨other, isOther, given⟩ := ofHeaders_of_isNamed named
  rw [read] at isOther
  cases isOther
  obtain ⟨value, text, first, shown, notBlank⟩ := named.user
  obtain ⟨name, trimmed⟩ := Option.isSome_iff_exists.mp (Text.isSome_trimmed?_iff.mpr notBlank)
  obtain ⟨isName, nonempty⟩ := Text.trimmed?_eq_some_iff.mp trimmed
  have sameName : caller.name = name := by
    simp only [ofHeaders, first, shown, trimmed] at read
    cases roles : rolesOfValues (headers.all rolesHeader) with
    | error failure =>
      rw [roles] at read
      cases read
    | ok roles' =>
      rw [roles] at read
      cases read
      rfl
  exact ⟨⟨value, text, first, shown, isName.trans sameName.symm⟩, sameName ▸ nonempty, given⟩

/-- Headers are read as those of nobody exactly if they have no user. -/
theorem ofHeaders_eq_none_iff : ofHeaders headers = .ok none ↔ headers.all userHeader = [] := by
  refine ⟨fun read => ?_, ofHeaders_of_unnamed⟩
  rcases unnamed_or_named_or_refused headers with unnamed | named | ⟨reason, refuses⟩
  · exact unnamed
  · obtain ⟨caller, isCaller, _⟩ := ofHeaders_of_isNamed named
    rw [isCaller] at read
    cases read
  · rw [ofHeaders_of_refuses refuses] at read
    cases read

/-- Headers are read as those of somebody exactly if they name a caller. -/
theorem exists_caller_iff : (∃ caller, ofHeaders headers = .ok (some caller)) ↔ IsNamed headers := by
  constructor
  · rintro ⟨caller, read⟩
    exact isNamed_of_ofHeaders read
  · intro named
    obtain ⟨caller, read, _⟩ := ofHeaders_of_isNamed named
    exact ⟨caller, read⟩

/-- Headers are refused for a reason, which is their only one. -/
theorem ofHeaders_eq_error_iff {failure : Failure} :
    ofHeaders headers = .error failure ↔ ∃ reason, Refuses headers reason ∧ failure = refused reason := by
  constructor
  · intro failed
    rcases unnamed_or_named_or_refused headers with unnamed | named | ⟨reason, refuses⟩
    · rw [ofHeaders_of_unnamed unnamed] at failed
      cases failed
    · obtain ⟨caller, read, _⟩ := ofHeaders_of_isNamed named
      rw [read] at failed
      cases failed
    · rw [ofHeaders_of_refuses refuses] at failed
      exact ⟨reason, refuses, (Except.error.inj failed).symm⟩
  · rintro ⟨reason, refuses, rfl⟩
    exact ofHeaders_of_refuses refuses

/-! ## What is overlooked -/

/-- What is refused cannot be read. -/
theorem Refuses.isUnreadable {reason : String} (refuses : Refuses headers reason) :
    IsUnreadable headers := by
  cases refuses with
  | hiddenUser first hidden =>
    exact .inl ⟨_, List.mem_append_left _ (mem_all_of_first? first), hidden⟩
  | blankUser first shown blank => exact .inr ⟨_, mem_all_of_first? first, _, shown, blank⟩
  | hiddenRoles first shown notBlank member hidden =>
    exact .inl ⟨_, List.mem_append_right _ member, hidden⟩

theorem IsOverlooked.isUnreadable (overlooked : IsOverlooked headers) : IsUnreadable headers := by
  rcases overlooked with ⟨_, value, member, hidden⟩ | ⟨_, value, behind, faulty⟩
  · exact .inl ⟨value, List.mem_append_right _ member, hidden⟩
  · have member := List.mem_of_mem_tail behind
    cases shown : value.text? with
    | none => exact .inl ⟨value, List.mem_append_left _ member, shown⟩
    | some text => exact .inr ⟨value, member, text, shown, faulty text shown⟩

/-- What is overlooked is not refused. -/
theorem IsOverlooked.exists_ofHeaders (overlooked : IsOverlooked headers) :
    ∃ caller, ofHeaders headers = .ok caller := by
  rcases overlooked with ⟨unnamed, _⟩ | ⟨named, _⟩
  · exact ⟨none, ofHeaders_of_unnamed unnamed⟩
  · obtain ⟨caller, read⟩ := exists_caller_iff.mpr named
    exact ⟨some caller, read⟩

/-- Without a user only the roles can be at fault. -/
theorem IsUnreadable.overlooked_of_unnamed (unreadable : IsUnreadable headers)
    (unnamed : headers.all userHeader = []) : IsOverlooked headers := by
  rw [IsUnreadable, unnamed, List.nil_append] at unreadable
  rcases unreadable with hidden | ⟨_, member, _⟩
  · exact .inl ⟨unnamed, hidden⟩
  · cases member

/-- Where a caller is named, only a further value of the user header can be at fault. -/
theorem IsUnreadable.overlooked_of_named (unreadable : IsUnreadable headers)
    (named : IsNamed headers) : IsOverlooked headers := by
  obtain ⟨value, text, first, shown, notBlank⟩ := named.user
  obtain ⟨further, whole⟩ := List.head?_eq_some_iff.mp (Http.Headers.first?_eq_head? .. ▸ first)
  have faulty : ∃ other ∈ headers.all userHeader,
      ∀ text, other.text? = some text → Text.isBlankText text = true := by
    rcases unreadable with ⟨other, member, hidden⟩ | ⟨other, member, blank, isBlank⟩
    · rcases List.mem_append.mp member with user | role
      · exact ⟨other, user, by simp [hidden]⟩
      · have visible := named.roles other role
        rw [hidden] at visible
        cases visible
    · exact ⟨other, member, fun text isText => by simp_all⟩
  obtain ⟨other, member, blank⟩ := faulty
  refine .inr ⟨named, other, ?_, blank⟩
  rw [whole] at member ⊢
  rcases List.mem_cons.mp member with rfl | behind
  · rw [blank text shown] at notBlank
    cases notBlank
  · exact behind

/-- Something that cannot be read is a reason to refuse the headers, or it is overlooked. -/
theorem isUnreadable_iff (headers : Http.Headers) :
    IsUnreadable headers ↔ (∃ reason, Refuses headers reason) ∨ IsOverlooked headers := by
  constructor
  · intro unreadable
    rcases unnamed_or_named_or_refused headers with unnamed | named | refused
    · exact .inr (unreadable.overlooked_of_unnamed unnamed)
    · exact .inr (unreadable.overlooked_of_named named)
    · exact .inl refused
  · rintro (⟨reason, refuses⟩ | overlooked)
    · exact refuses.isUnreadable
    · exact overlooked.isUnreadable

end Sluice.Resource.Caller

namespace Sluice.Server

open Resource

variable {σ : Type}

/-- An exchange that was refused since its client is not known, with nothing done for it. -/
structure IsUnauthorized (exchange : Exchange σ) (method : Http.Method) (reason : String)
    (before : Shared σ) : Prop where
  status : exchange.response.status = 401
  /-- The client does not get to see the reason. -/
  body : exchange.response.body.text =
    if method = .head then "" else (Envelope.plain "Unauthorized").render
  shared : exchange.shared = before
  events : exchange.events = [.plain .debug "request failed"
    [("mapping", "unauthenticated"), ("status", "401"), ("error", "unauthenticated: " ++ reason)]]

namespace Application

/-- A server that believes the headers answers headers that are refused with that alone. -/
theorem isUnauthorized_of_refuses {application : Application σ} {request : Request}
    {bindings : List (Binding σ)} {captures : Route.Captures}
    (believes : application.trustIdentity = true)
    (found : application.table.find? request.uri.path = some (.resource bindings, captures))
    (notOptions : request.method ≠ .options) {reason : String}
    (refuses : Caller.Refuses request.headers reason) (incident : Incident) (shared : Shared σ) :
    IsUnauthorized (application.serve request incident shared) request.method reason shared := by
  have answered : application.resourceAnswer bindings captures request incident shared =
      ⟨(Ruling.of incident (Caller.refused reason)).toResponse, shared,
        [(Ruling.of incident (Caller.refused reason)).event]⟩ := by
    simp only [resourceAnswer, believes, if_true, identified, Caller.ofHeaders_of_refuses refuses]
  obtain ⟨status, text, _⟩ := application.around_kept request
    (application.resourceAnswer bindings captures request incident shared)
  rw [serve_of_resource found notOptions]
  rw [answered] at status text ⊢
  have body (response : Http.Response) :
      (withAllow bindings request.method response).withLength.body = response.body := by
    rw [body_withLength]
    unfold withAllow
    split <;> rfl
  constructor
  case status =>
    rw [answering, status_forMethod, status_withLength, status_withAllow, status]
    rfl
  case body =>
    simp only [answering, forMethod]
    split
    · rfl
    · rw [body, text, Ruling.toResponse_eq]
      rfl
  case shared => rfl
  case events => rfl

/-- Headers that name a caller are refused for a reason of their first user or of their roles; without a
user they are read as those of nobody, and all others as those of the caller whom they name. Whatever
cannot be read in them is either a reason to refuse them or overlooked, and not both. A server that
believes the headers answers a request with refused ones with 401 and does nothing for it, and serves a
request with overlooked ones as it serves any other. -/
theorem unreadable_identity_overlooked (headers : Http.Headers) :
    (∀ failure, Caller.ofHeaders headers = .error failure ↔
      ∃ reason, Caller.Refuses headers reason ∧ failure = .unauthenticated reason false) ∧
    (Caller.ofHeaders headers = .ok none ↔ headers.all Caller.userHeader = []) ∧
    ((∃ caller, Caller.ofHeaders headers = .ok (some caller)) ↔ Caller.IsNamed headers) ∧
    (∀ caller, Caller.ofHeaders headers = .ok (some caller) → Caller.IsCallerOf headers caller) ∧
    (Caller.IsUnreadable headers ↔
      (∃ reason, Caller.Refuses headers reason) ∨ Caller.IsOverlooked headers) ∧
    (Caller.IsOverlooked headers → ∃ caller, Caller.ofHeaders headers = .ok caller) ∧
    ∀ (σ : Type) (application : Application σ) (bindings : List (Binding σ))
      (captures : Route.Captures) (request : Request) (incident : Incident) (shared : Shared σ),
      application.trustIdentity = true → request.headers = headers → request.caller = none →
      application.table.find? request.uri.path = some (.resource bindings, captures) →
      request.method ≠ .options →
        (∀ reason, Caller.Refuses headers reason →
          IsUnauthorized (application.serve request incident shared) request.method reason shared) ∧
        ∀ caller, Caller.ofHeaders headers = .ok caller →
          ∃ events, application.resourceAnswer bindings captures request incident shared =
            (answerOn application.engine application.cache bindings captures
              { request with caller := caller } incident shared).after events := by
  refine ⟨fun failure => Caller.ofHeaders_eq_error_iff, Caller.ofHeaders_eq_none_iff,
    Caller.exists_caller_iff, fun caller => Caller.isCallerOf_of_ofHeaders,
    Caller.isUnreadable_iff headers, Caller.IsOverlooked.exists_ofHeaders, ?served⟩
  case served =>
    rintro σ application bindings captures request incident shared believes rfl unset found notOptions
    exact ⟨fun reason refuses =>
        isUnauthorized_of_refuses believes found notOptions refuses incident shared,
      fun caller read =>
        exists_resourceAnswer_of_read believes read unset bindings captures incident shared⟩

/-- A known user with two lines of roles, of which a byte of the second cannot be shown, is refused. -/
theorem hidden_roles_refused :
    let settings : Settings :=
      { Settings.standard with access := { Settings.standard.access with trustIdentity := true } }
    let registry := (Registration.run [⟨"/a/\x7bx\x7d", {}, .writtenBy ["W"]⟩]).registry
    let source : Source Unit := .checkedByLease fun _ => .ok ()
    let headers : Http.Headers :=
      [⟨"x-cda-user", .ofText " q0hec"⟩, ⟨"x-cda-roles", .ofText "W"⟩, ⟨"x-cda-roles", [0x57, 0xe9]⟩]
    let request : Request := ⟨.get, ⟨"/cwms-data/a/1".toList, none⟩, headers, [], none⟩
    Caller.Refuses headers "roles header is not valid text" ∧ request.caller = none ∧
      request.method ≠ .options ∧
      ∃ application bindings captures, assemble? settings registry source = some application ∧
        application.trustIdentity = true ∧
        application.table.find? request.uri.path = some (.resource bindings, captures) ∧
        Caller.ofHeaders headers =
          .error (.unauthenticated "roles header is not valid text" false) ∧
        ∀ incident shared, (application.serve request incident shared).response.status = 401 ∧
          (application.serve request incident shared).shared = shared := by
  intro settings registry source headers request
  have first : headers.first? Caller.userHeader = some (.ofText " q0hec") := by decide +kernel
  have shown : Http.HeaderValue.text? (.ofText " q0hec") = some " q0hec" := by decide +kernel
  have hidden : Http.HeaderValue.text? [0x57, 0xe9] = none := by decide
  have refuses : Caller.Refuses headers "roles header is not valid text" :=
    .hiddenRoles first shown (by decide +kernel) (by decide) hidden
  have serves : (assemble? settings registry source).map (fun application =>
      (application.trustIdentity, (application.binding? request).isSome)) = some (true, true) := by
    decide +kernel
  obtain ⟨application, assembled, isServed⟩ := Option.map_eq_some_iff.mp serves
  obtain ⟨believes, isBound⟩ := Prod.mk.inj isServed
  obtain ⟨⟨binding, captures⟩, bound⟩ := Option.isSome_iff_exists.mp isBound
  obtain ⟨bindings, found, _⟩ := exists_route_of_binding? bound
  obtain ⟨refused, _, _, _, _, _, served⟩ := unreadable_identity_overlooked headers
  refine ⟨refuses, rfl, by decide, application, bindings, captures, assembled, believes, found,
    (refused _).mpr ⟨_, refuses, rfl⟩, fun incident shared => ?_⟩
  obtain ⟨unauthorized, _⟩ := served Unit application bindings captures request incident shared
    believes rfl rfl found (by decide)
  exact ⟨(unauthorized _ refuses).status, (unauthorized _ refuses).shared⟩

/-- Roles that cannot be shown pass for an anonymous request where there is no user, and a second user
that cannot be shown passes behind one that can. -/
theorem unreadable_identity_not_refused :
    let roles : Http.Headers := [⟨"x-cda-roles", [0xff]⟩]
    let users : Http.Headers := [⟨"x-cda-user", .ofText "q0hec"⟩, ⟨"x-cda-user", [0xff]⟩]
    Caller.IsUnreadable roles ∧ Caller.ofHeaders roles = .ok none ∧
      Caller.IsUnreadable users ∧
      (Caller.ofHeaders users).toOption = some (some ⟨"q0hec", []⟩) ∧
      ¬ ∀ headers, Caller.IsUnreadable headers → ∃ failure, Caller.ofHeaders headers = .error failure := by
  intro roles users
  have unreadableRoles : Caller.IsUnreadable roles := .inl ⟨[0xff], by decide⟩
  have unreadableUsers : Caller.IsUnreadable users := .inl ⟨[0xff], by decide +kernel⟩
  have anonymous : Caller.ofHeaders roles = .ok none := rfl
  refine ⟨unreadableRoles, anonymous, unreadableUsers, by decide +kernel, fun refusing => ?_⟩
  obtain ⟨failure, refused⟩ := refusing roles unreadableRoles
  rw [anonymous] at refused
  cases refused

end Application

end Sluice.Server
