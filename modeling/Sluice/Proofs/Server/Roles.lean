import Sluice.Proofs.Resource.OfferedMethods
import Sluice.Proofs.Resource.Reports
import Sluice.Proofs.Resource.RoleChecks
import Sluice.Server.Application
import Sluice.Server.Settings

/-!
# Roles in settings and requests

Who may do what, from the text of a variable to the header fields of a request. Both are lists with
commas that are read apart, and what is decided comes down to `Settings.DecidesBy`: a role has to stand
in the one and in the other. `Settings.roles_decide` adds that nothing else about the lists counts, and
that a value with a comma in it is the same as two values.
-/

namespace Sluice.Resource

namespace Caller

/-- The text of two values with a comma between them. -/
theorem text?_joined (first second : Http.HeaderValue) :
    Http.HeaderValue.text? (first ++ 0x2c :: second) =
      first.text?.bind fun front => second.text?.map fun back => front ++ "," ++ back := by
  have comma : Http.isVisibleByte 0x2c = true := by decide
  unfold Http.HeaderValue.text?
  rw [List.all_append, List.all_cons, comma, Bool.true_and]
  cases first.all Http.isVisibleByte with
  | false => rfl
  | true =>
    cases second.all Http.isVisibleByte with
    | false => rfl
    | true =>
      simp only [Bool.and_self, if_true, Option.bind_some, Option.map_some, Option.some.injEq,
        ← String.toList_inj, String.toList_append, String.toList_ofList, List.map_append,
        List.map_cons, List.append_assoc]
      rfl

/-- A value with a comma gives the roles of the two parts. -/
theorem rolesOfValues_joined (front back : List Http.HeaderValue) (first second : Http.HeaderValue) :
    rolesOfValues (front ++ (first ++ 0x2c :: second) :: back) =
      rolesOfValues (front ++ first :: second :: back) := by
  induction front with
  | nil =>
    simp only [List.nil_append, rolesOfValues, text?_joined]
    cases first.text? with
    | none => rfl
    | some text =>
      cases second.text? with
      | none => rfl
      | some other =>
        cases rolesOfValues back with
        | error failure => rfl
        | ok roles =>
          simp only [Option.bind_some, Option.map_some, Except.map, Text.items_comma,
            List.append_assoc]
  | cons value rest ih =>
    simp only [List.cons_append, rolesOfValues, ih]

/-- A line of the roles header with a comma names the same caller as two lines. -/
theorem ofHeaders_joined (front back : Http.Headers) (first second : Http.HeaderValue) :
    ofHeaders (front ++ ⟨rolesHeader, first ++ 0x2c :: second⟩ :: back) =
      ofHeaders (front ++ ⟨rolesHeader, first⟩ :: ⟨rolesHeader, second⟩ :: back) := by
  have other : (rolesHeader == userHeader) = false := by decide
  have user : Http.Headers.all (front ++ ⟨rolesHeader, first ++ 0x2c :: second⟩ :: back) userHeader =
      Http.Headers.all (front ++ ⟨rolesHeader, first⟩ :: ⟨rolesHeader, second⟩ :: back)
        userHeader := by
    simp only [Http.Headers.all, List.filter_append, List.filter_cons, other, Bool.false_eq_true,
      if_false]
  have roles : rolesOfValues
        (Http.Headers.all (front ++ ⟨rolesHeader, first ++ 0x2c :: second⟩ :: back) rolesHeader) =
      rolesOfValues
        (Http.Headers.all (front ++ ⟨rolesHeader, first⟩ :: ⟨rolesHeader, second⟩ :: back)
          rolesHeader) := by
    simp only [Http.Headers.all, List.filter_append, List.filter_cons, BEq.rfl, if_true,
      List.map_append, List.map_cons]
    exact rolesOfValues_joined ..
  simp only [ofHeaders, Http.Headers.first?_eq_head?, user, roles]

end Caller

end Sluice.Resource

namespace Sluice.Server

open Resource

/-- Whether reads need a role as well: the variable for that spells true. -/
def Variables.RestrictsReads (vars : Variables) : Prop :=
  ∃ text, vars "CDA_RESTRICT_READS" = some text ∧ Text.trim text = "true"

/-- A flag that is off unless it is set holds where its variable spells true. -/
theorem Variables.flag_eq_true_iff (vars : Variables) (name : String) :
    vars.flag name false = true ↔ ∃ text, vars name = some text ∧ Text.trim text = "true" := by
  unfold flag
  cases vars name with
  | none => simp
  | some text =>
    simp only [Option.bind_some, truth?, Option.some.injEq, exists_eq_left']
    by_cases on : Text.trim text = "true"
    · simp [on]
    · rw [if_neg on]
      split <;> simp [on]

namespace AccessSettings

/-- The policy of the settings starts from their roles of writes, and its reads are restricted if they
say so. -/
theorem built_policy (access : AccessSettings) :
    AccessPolicy.Built access.writeRoles access.restrictReads access.policy := by
  unfold policy
  cases access.restrictReads with
  | false => exact .writtenBy
  | true => exact .restrictReads .writtenBy

/-- The settings allow what they leave open, and otherwise ask for one of the roles of writes. -/
theorem authorize_policy_iff {access : AccessSettings} (some_role : access.writeRoles ≠ [])
    (operation : Operation) (held : Roles) :
    access.policy.authorize operation held = .allow ↔
      (operation.isRead = true ∧ access.restrictReads = false) ∨
        ∃ role ∈ access.writeRoles, role ∈ held :=
  access.built_policy.authorize_eq_allow_iff some_role operation held

end AccessSettings

/-- A server that believes the headers serves a request with headers that can be read as one of nobody or
of the caller whom they name. -/
theorem Application.exists_resourceAnswer_of_read {σ : Type} {application : Application σ}
    {request : Request} (believes : application.trustIdentity = true) {caller : Option Caller}
    (read : Caller.ofHeaders request.headers = .ok caller) (unset : request.caller = none)
    (bindings : List (Binding σ)) (captures : Route.Captures) (incident : Incident)
    (shared : Shared σ) :
    ∃ events, application.resourceAnswer bindings captures request incident shared =
      (answerOn application.engine application.cache bindings captures
        { request with caller := caller } incident shared).after events := by
  obtain ⟨method, uri, headers, body, held⟩ := request
  cases unset
  simp only [resourceAnswer, believes, if_true, identified, read]
  cases caller with
  | none => exact ⟨[], rfl⟩
  | some caller => exact ⟨[identifiedEvent caller], rfl⟩

namespace Settings

/-- What the settings decide on a request for an operation that comes with some header fields, if
these are believed; a fault of the fields comes first. -/
def decision (settings : Settings) (headers : Http.Headers) (operation : Operation) :
    Except Failure Decision :=
  (Caller.ofHeaders headers).map fun caller =>
    settings.access.policy.authorize operation (Caller.rolesOf caller)

/-- The roles of writes and the restriction of reads are read from their variables. -/
theorem access_of_read {vars : Variables} {settings : Settings} (isRead : read vars = .ok settings)
    {setting : String} (isSet : vars "CDA_WRITE_ROLES" = some setting) :
    settings.access.writeRoles = Text.items ',' setting ∧
      (settings.access.restrictReads = false ↔ ¬ vars.RestrictsReads) := by
  unfold read at isRead
  cases cached : readCache vars with
  | error fault =>
    rw [cached] at isRead
    cases isRead
  | ok cache =>
    rw [cached] at isRead
    obtain rfl := Except.ok.inj isRead
    constructor
    · simp only [ofVariables, Variables.list, Variables.text, isSet, Option.getD_some]
    · rw [Variables.RestrictsReads, ← Variables.flag_eq_true_iff, Bool.not_eq_true]
      rfl

/-- How settings decide that were read from variables: by the roles that stand in the variable and in
the header fields. -/
structure DecidesBy (settings : Settings) (vars : Variables) (setting : String) : Prop where
  /-- Who is named may read what is not restricted, and needs a role that the setting lists for
  everything else. -/
  named : ∀ headers, Caller.IsNamed headers → ∀ operation,
    settings.decision headers operation = .ok .allow ↔
      (operation.isRead = true ∧ ¬ vars.RestrictsReads) ∨
        ∃ role, Caller.GivesRole headers role ∧ Text.Lists setting role
  /-- Who is not named may read what is not restricted, whatever roles are given. -/
  unnamed : ∀ headers, headers.all Caller.userHeader = [] → ∀ operation,
    settings.decision headers operation = .ok .allow ↔
      operation.isRead = true ∧ ¬ vars.RestrictsReads
  /-- What is not allowed is denied. -/
  denied : ∀ headers, Caller.IsNamed headers ∨ headers.all Caller.userHeader = [] → ∀ operation,
    settings.decision headers operation ≠ .ok .allow →
      settings.decision headers operation = .ok (.deny "missing role")
  /-- A server that believes the fields serves a request as that of the caller whom they name. -/
  believed : ∀ (σ : Type) (application : Application σ) (bindings : List (Binding σ))
    (captures : Route.Captures) (request : Request) (incident : Incident) (shared : Shared σ)
    (caller : Option Caller),
    application.trustIdentity = true → request.caller = none →
      Caller.ofHeaders request.headers = .ok caller →
        ∃ events, application.resourceAnswer bindings captures request incident shared =
          (answerOn application.engine application.cache bindings captures
            { request with caller := caller } incident shared).after events
  /-- A dispatch for that caller is denied access exactly if the settings do not allow it. -/
  enforced : ∀ (σ : Type) (engine : Engine σ) (run : Run σ), run.IsSeeded engine →
    run.binding.policy = settings.access.policy →
      Caller.ofHeaders run.request.headers = .ok run.request.caller →
        (run.IsDenied engine ↔
          settings.decision run.request.headers run.binding.operation ≠ .ok .allow)

section Decisions

variable {vars : Variables} {settings : Settings} {setting : String}

/-- A decision on fields that name a caller is that on the roles of the caller. -/
theorem decision_of_ofHeaders {headers : Http.Headers} {caller : Option Caller}
    (read : Caller.ofHeaders headers = .ok caller) (operation : Operation) :
    settings.decision headers operation =
      .ok (settings.access.policy.authorize operation (Caller.rolesOf caller)) := by
  rw [decision, read]
  rfl

/-- Settings allow what is not restricted, and otherwise what one of the roles in the list allows. -/
theorem authorize_iff_of_read (isRead : read vars = .ok settings)
    (isSet : vars "CDA_WRITE_ROLES" = some setting) (listed : ∃ role, Text.Lists setting role)
    (operation : Operation) (held : Roles) :
    settings.access.policy.authorize operation held = .allow ↔
      (operation.isRead = true ∧ ¬ vars.RestrictsReads) ∨ ∃ role ∈ held, Text.Lists setting role := by
  obtain ⟨roles, restricted⟩ := access_of_read isRead isSet
  have some_role : settings.access.writeRoles ≠ [] := by
    obtain ⟨role, lists⟩ := listed
    exact List.ne_nil_of_mem (roles ▸ Text.mem_items_iff.mpr lists)
  rw [AccessSettings.authorize_policy_iff some_role, restricted, roles]
  simp only [Text.mem_items_iff, and_comm]

/-- Settings decide by the roles that their variables list. -/
theorem decidesBy_of_read (isRead : read vars = .ok settings)
    (isSet : vars "CDA_WRITE_ROLES" = some setting) (listed : ∃ role, Text.Lists setting role) :
    settings.DecidesBy vars setting := by
  have allowed := authorize_iff_of_read isRead isSet listed
  constructor
  case named =>
    intro headers named operation
    obtain ⟨caller, read, given⟩ := Caller.ofHeaders_of_isNamed named
    rw [decision_of_ofHeaders read, Except.ok.injEq, allowed]
    simp only [Caller.rolesOf, given]
  case unnamed =>
    intro headers unnamed operation
    rw [decision_of_ofHeaders (Caller.ofHeaders_of_unnamed unnamed), Except.ok.injEq, allowed]
    simp [Caller.rolesOf]
  case denied =>
    intro headers fields operation notAllowed
    have read : ∃ caller, Caller.ofHeaders headers = .ok caller := by
      rcases fields with named | unnamed
      · obtain ⟨caller, read, _⟩ := Caller.ofHeaders_of_isNamed named
        exact ⟨some caller, read⟩
      · exact ⟨none, Caller.ofHeaders_of_unnamed unnamed⟩
    obtain ⟨caller, read⟩ := read
    rw [decision_of_ofHeaders read, ne_eq, Except.ok.injEq] at notAllowed
    rw [decision_of_ofHeaders read, (AccessPolicy.authorize_eq_deny_iff ..).mpr notAllowed]
  case believed =>
    intro σ application bindings captures request incident shared caller trusts anonymous read
    exact Application.exists_resourceAnswer_of_read trusts read anonymous bindings captures incident
      shared
  case enforced =>
    intro σ engine run seeded guarded read
    rw [decision_of_ofHeaders read, ← guarded, ne_eq, Except.ok.injEq]
    constructor
    · rintro ⟨_, _, reason, denied⟩ allowed
      rw [denied] at allowed
      cases allowed
    · intro notAllowed
      exact ⟨seeded.accepts, seeded.available, _,
        (AccessPolicy.authorize_eq_deny_iff ..).mpr notAllowed⟩

end Decisions

/-- Settings for which nothing about lists of roles counts but the roles in them. -/
structure DecidesByRolesAlone (settings : Settings) (vars : Variables) (setting : String) : Prop where
  given : ∀ first second, Caller.IsNamed first → Caller.IsNamed second →
    (∀ role, Caller.GivesRole first role ↔ Caller.GivesRole second role) →
      ∀ operation, settings.decision first operation = settings.decision second operation
  /-- A line of the roles header with a comma in it is the same as two lines. -/
  joined : ∀ (front back : Http.Headers) (first second : Http.HeaderValue) operation,
    settings.decision (front ++ ⟨Caller.rolesHeader, first ++ 0x2c :: second⟩ :: back) operation =
      settings.decision
        (front ++ ⟨Caller.rolesHeader, first⟩ :: ⟨Caller.rolesHeader, second⟩ :: back) operation
  listed : ∀ vars' settings' setting', read vars' = .ok settings' →
    vars' "CDA_WRITE_ROLES" = some setting' →
    (∀ role, Text.Lists setting' role ↔ Text.Lists setting role) →
    (vars'.RestrictsReads ↔ vars.RestrictsReads) →
      ∀ headers operation,
        settings'.decision headers operation = settings.decision headers operation

/-- Settings that are read from variables of which the one for the roles of writes lists some role
decide by that list. Nothing else about the lists counts, in the variable or in the header fields; and
a line of the roles header with a comma in it is the same as two lines. -/
theorem roles_decide {vars : Variables} {settings : Settings} {setting : String}
    (isRead : read vars = .ok settings) (isSet : vars "CDA_WRITE_ROLES" = some setting)
    (listed : ∃ role, Text.Lists setting role) :
    settings.DecidesBy vars setting ∧ settings.DecidesByRolesAlone vars setting := by
  have allowed := authorize_iff_of_read isRead isSet listed
  refine ⟨decidesBy_of_read isRead isSet listed, ?given, ?joined, ?listed⟩
  case given =>
    intro first second namedFirst namedSecond same operation
    obtain ⟨caller, isCaller, given⟩ := Caller.ofHeaders_of_isNamed namedFirst
    obtain ⟨other, isOther, givenOther⟩ := Caller.ofHeaders_of_isNamed namedSecond
    rw [decision_of_ofHeaders isCaller, decision_of_ofHeaders isOther]
    refine congrArg Except.ok (AccessPolicy.authorize_congr ?_)
    rw [allowed, allowed]
    simp only [Caller.rolesOf, given, givenOther, same]
  case joined =>
    intro front back first second operation
    rw [decision, decision, Caller.ofHeaders_joined]
  case listed =>
    intro vars' settings' setting' isRead' isSet' sameRoles sameReads headers operation
    have listed' : ∃ role, Text.Lists setting' role :=
      (exists_congr sameRoles).mpr listed
    have allowed' := authorize_iff_of_read isRead' isSet' listed'
    cases read : Caller.ofHeaders headers with
    | error failure => rw [decision, decision, read]; rfl
    | ok caller =>
      rw [decision_of_ofHeaders read, decision_of_ofHeaders read]
      refine congrArg Except.ok (AccessPolicy.authorize_congr ?_)
      rw [allowed', allowed]
      simp only [sameRoles, sameReads]

/-- A variable that lists two roles among blanks, and a request that brings one of them in the second
line of its roles header. -/
theorem padded_roles_decide :
    let setting := " CWMS Users,, TS ID Creator ,"
    let vars : Variables := fun name =>
      if name = "CDA_WRITE_ROLES" then some setting
      else if name = "CDA_RESTRICT_READS" then some " true " else none
    let headers : Http.Headers :=
      [⟨"x-cda-user", .ofText "q0hec"⟩, ⟨"x-cda-roles", .ofText "viewer"⟩,
        ⟨"x-cda-roles", .ofText ",TS ID Creator"⟩]
    ∃ settings, read vars = .ok settings ∧ vars "CDA_WRITE_ROLES" = some setting ∧
      (∃ role, Text.Lists setting role) ∧ vars.RestrictsReads ∧ Caller.IsNamed headers ∧
      settings.DecidesBy vars setting ∧ settings.decision headers .delete = .ok .allow := by
  intro setting vars headers
  have isRead : read vars = .ok (ofVariables vars .standard) := rfl
  have isSet : vars "CDA_WRITE_ROLES" = some setting := rfl
  have lists : Text.Lists setting "TS ID Creator" := Text.mem_items_iff.mp (by decide +kernel)
  have restricted : vars.RestrictsReads := ⟨" true ", rfl, by decide +kernel⟩
  have named : Caller.IsNamed headers :=
    ⟨⟨.ofText "q0hec", "q0hec", by decide +kernel⟩, by decide +kernel⟩
  have gives : Caller.GivesRole headers "TS ID Creator" :=
    ⟨.ofText ",TS ID Creator", by decide +kernel, ",TS ID Creator", by decide +kernel,
      Text.mem_items_iff.mp (by decide +kernel)⟩
  obtain ⟨decides, _⟩ := roles_decide isRead isSet ⟨_, lists⟩
  exact ⟨_, isRead, isSet, ⟨_, lists⟩, restricted, named, decides,
    (decides.named headers named .delete).mpr (.inr ⟨_, gives, lists⟩)⟩

end Settings

end Sluice.Server
