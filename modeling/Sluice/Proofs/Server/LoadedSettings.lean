import Sluice.Proofs.Category.Isolation
import Sluice.Proofs.Resource.Registration
import Sluice.Proofs.Server.UnreadableSettings
import Sluice.Proofs.Text.Trimming

/-!
# What loaded settings promise

Settings that have been loaded are what everything built from them relies on. `Settings.SoundFor` puts
that together: the resource of the server can be registered under their policy, which closes the writes
and opens everything to any one of their roles; their roles and origins can be compared as they are; the
office that they serve is one; and their connections make a pool. Reading the variables fails only for
the rule for caching, and everything else is a question for the checks that follow.
-/

namespace Sluice.Server.Settings

open Resource

/-! ## Checks -/

/-- What the checks of settings ask for. -/
structure Consistent (settings : Settings) : Prop where
  port : settings.server.port ≠ 0
  path : settings.server.contextPath.toList.head? = some '/'
  url : settings.database.url ≠ ""
  connections : 0 < settings.database.maxConnections
  pool : settings.database.minConnections ≤ settings.database.maxConnections
  roles : settings.access.writeRoles ≠ []

/-- Settings that pass the checks are consistent. -/
theorem consistent_of_validate {settings : Settings} {events : List Log.Event}
    (valid : settings.validate = .ok events) : settings.Consistent := by
  unfold validate at valid
  split at valid
  · cases valid
  next port =>
  split at valid
  · cases valid
  next path =>
  split at valid
  · cases valid
  next url =>
  split at valid
  · cases valid
  next connections =>
  split at valid
  · cases valid
  next pool =>
  split at valid
  · cases valid
  next roles =>
  exact
    { port
      path := Decidable.of_not_not path
      url := by simpa using url
      connections := Nat.pos_of_ne_zero connections
      pool := Nat.le_of_not_lt pool
      roles := by simpa using roles }

/-- Reading the variables fails exactly if the one for the rule for caching is set to a text that writes
none. -/
theorem exists_read_eq_error_iff (vars : Variables) :
    (∃ fault, read vars = .error fault) ↔
      ∃ text, vars "CDA_DEFAULT_CACHE" = some text ∧ ∀ rule, ¬ CacheRule.Writes text rule := by
  unfold read readCache
  cases isSet : vars "CDA_DEFAULT_CACHE" with
  | none => simp [Except.map]
  | some text =>
    simp only [Option.some.injEq, exists_eq_left']
    cases parsed : CacheRule.parse text with
    | ok rule =>
      have written := (CacheRule.parse_eq_ok_iff text rule).mp parsed
      simp only [Except.map, reduceCtorEq, exists_false, false_iff, not_forall, not_not]
      exact ⟨rule, written⟩
    | error fault =>
      have unwritten := ((CacheRule.parse_eq_error_iff text fault).mp parsed).1
      simp only [Except.map, Except.error.injEq, exists_eq', true_iff]
      exact unwritten

/-! ## Lists -/

/-- A text that can be compared as it is: not blank, and without white space around it. -/
def IsComparable (text : String) : Prop :=
  Text.isBlankText text = false ∧ Text.IsTidy text.toList

/-- What is left of a text after trimming can be compared as it is. -/
theorem isComparable_trim {text : String} (nonempty : Text.trim text ≠ "") :
    IsComparable (Text.trim text) := by
  have tidy : Text.IsTidy (Text.trim text).toList := by
    rw [Text.trim, String.toList_ofList]
    exact Text.isTidy_trimChars text.toList
  refine ⟨?_, tidy⟩
  cases shape : (Text.trim text).toList with
  | nil => exact absurd (String.toList_inj.mp shape) nonempty
  | cons c rest =>
    have first : Text.isBlank c = false := tidy.first c (by rw [shape]; rfl)
    rw [Text.isBlankText, shape, List.all_cons, first, Bool.false_and]

/-- The items of a variable can be compared as they are. -/
theorem isComparable_of_mem_list {vars : Variables} {name default item : String}
    (member : item ∈ vars.list name default) : IsComparable item := by
  obtain ⟨nonempty, piece, _, rfl⟩ := Text.mem_items_iff.mp member
  exact isComparable_trim nonempty

/-! ## The office -/

/-- The office of settings that were read is a name, and the reserved one only if the variable for the
office says so. -/
theorem servedOffice_ofVariables (vars : Variables) (cache : CacheRule) :
    (ofVariables vars cache).servedOffice ≠ "" ∧
      ((ofVariables vars cache).servedOffice = reservedName →
        ∃ text, vars "CDA_OFFICE" = some text ∧ Text.upper (Text.trim text) = reservedName) := by
  have office : (ofVariables vars cache).office = (vars "CDA_OFFICE").bind Text.trimmed? := rfl
  unfold servedOffice offices
  cases found : (ofVariables vars cache).office with
  | none =>
    have normal := isNormalOffice_officeOfPath (ofVariables vars cache).server.contextPath
    exact ⟨normal.nonempty, fun reserved => absurd reserved normal.unreserved⟩
  | some name =>
    rw [office, Option.bind_eq_some_iff] at found
    obtain ⟨text, isSet, trimmed⟩ := found
    obtain ⟨rfl, nonempty⟩ := Text.trimmed?_eq_some_iff.mp trimmed
    exact ⟨Text.upper_ne_empty nonempty, fun reserved => ⟨text, isSet, reserved⟩⟩

/-! ## The policy -/

/-- Writes under settings with a role are not open. -/
theorem isOpen_writes_policy {access : AccessSettings} (some_role : access.writeRoles ≠ []) :
    access.policy.writes.isOpen = false := by
  rw [← Bool.not_eq_true, access.built_policy.isOpen_writes_iff]
  exact some_role

/-- The resource of the server can be registered under a policy that closes the writes, with a binding
for each operation. -/
theorem exists_registry {policy : AccessPolicy} (guarded : policy.writes.isOpen = false) :
    ∃ resource : BoundResource Database.Session,
      resource.offer = ⟨Category.template, Category.handler, policy⟩ ∧
        Category.registry policy = .ok ⟨resource.bindings⟩ := by
  let template : Template :=
    ⟨Category.template, "/location/category/", "\x7bcategory-id\x7d", "category-id"⟩
  have valid : Template.validate template.text = .ok template := by decide +kernel
  let resource : BoundResource Database.Session :=
    ⟨template, Category.handler, policy, valid, guarded⟩
  have empty : (Registry.empty : Registry Database.Session).bindings =
      ([] : List (BoundResource Database.Session)).flatMap BoundResource.bindings := rfl
  have registered : resource.offer.registered .empty =
      .ok (⟨resource.bindings⟩, resource.bindings.map Binding.boundEvent) :=
    Offer.registered_of_fresh empty (by simp)
  refine ⟨resource, rfl, ?_⟩
  change (resource.offer.registered .empty).map (·.1) = _
  rw [registered]
  rfl

/-! ## Loaded settings -/

/-- What settings that were loaded from variables promise. -/
structure SoundFor (settings : Settings) (vars : Variables) : Prop where
  /-- The resource of the server can be registered under the policy, all of its operations. -/
  registered : ∃ registry, Category.registry settings.access.policy = .ok registry ∧
    registry.bindings.map (·.operation) = Operation.all ∧
      ∀ binding ∈ registry.bindings, binding.policy = settings.access.policy
  /-- Who has no role may not write. -/
  closed : ∀ operation, operation.isRead = false →
    settings.access.policy.authorize operation [] = .deny "missing role"
  /-- Who has one of the roles may do everything. -/
  opened : ∀ role ∈ settings.access.writeRoles, ∀ held : Roles, role ∈ held →
    ∀ operation, settings.access.policy.authorize operation held = .allow
  /-- Reads that are restricted are decided like writes. -/
  restricted : settings.access.restrictReads = true → ∀ operation other held,
    settings.access.policy.authorize operation held = settings.access.policy.authorize other held
  roles : ∀ role ∈ settings.access.writeRoles, IsComparable role
  origins : ∀ origin ∈ settings.origins.allowed, IsComparable origin
  /-- The office is a name in capitals. -/
  office : settings.servedOffice ≠ "" ∧ Text.upper settings.servedOffice = settings.servedOffice
  /-- The reserved name is the office only where the variable for the office says so. -/
  reserved : settings.servedOffice = reservedName →
    ∃ text, vars "CDA_OFFICE" = some text ∧ Text.upper (Text.trim text) = reservedName
  /-- The connections make a pool. -/
  pool : settings.database.minConnections ≤ settings.database.maxConnections ∧
    0 < settings.database.maxConnections

/-- Settings that can be loaded are sound. -/
theorem soundFor_of_load {vars : Variables} {settings : Settings} {events : List Log.Event}
    (loaded : load vars = .ok (settings, events)) : settings.SoundFor vars := by
  obtain ⟨isRead, valid⟩ := load_eq_ok_iff.mp loaded
  have consistent := consistent_of_validate valid
  have gated := settings.access.built_policy.isGated consistent.roles
  obtain ⟨cache, _, isSettings⟩ := exists_of_read isRead
  constructor
  case registered =>
    obtain ⟨resource, offered, registered⟩ :=
      exists_registry (isOpen_writes_policy consistent.roles)
    have policy : resource.policy = settings.access.policy := congrArg Offer.policy offered
    refine ⟨_, registered, rfl, ?_⟩
    intro binding member
    obtain ⟨operation, rfl⟩ := BoundResource.mem_bindings.mp member
    exact policy
  case closed =>
    intro operation isWrite
    exact gated.writes operation isWrite
  case opened =>
    intro role configured held member operation
    exact AccessPolicy.authorize_mono (by simpa using member) (gated.single role configured operation)
  case restricted =>
    intro restricted operation other held
    exact gated.alike restricted held operation other
  case roles =>
    intro role member
    rw [isSettings] at member
    exact isComparable_of_mem_list member
  case origins =>
    intro origin member
    rw [isSettings] at member
    exact isComparable_of_mem_list member
  case office =>
    refine ⟨?_, upper_servedOffice settings⟩
    rw [isSettings]
    exact (servedOffice_ofVariables vars cache).1
  case reserved =>
    rw [isSettings]
    exact (servedOffice_ofVariables vars cache).2
  case pool => exact ⟨consistent.pool, consistent.connections⟩

/-- Settings that were loaded are sound, and reading them fails exactly if the rule for caching is set to
a text that writes none. -/
theorem loaded_settings_sound (vars : Variables) :
    (∀ settings events, load vars = .ok (settings, events) → settings.SoundFor vars) ∧
      ((∃ fault, read vars = .error fault) ↔
        ∃ text, vars "CDA_DEFAULT_CACHE" = some text ∧ ∀ rule, ¬ CacheRule.Writes text rule) :=
  ⟨fun _ _ loaded => soundFor_of_load loaded, exists_read_eq_error_iff vars⟩

/-- Settings from variables with white space to spare, which name the reserved office, and a rule for
caching with a sign, which is none. -/
theorem padded_settings_sound :
    let vars : Variables := fun name =>
      if name = "CDA_WRITE_ROLES" then some " CWMS Users ,, Data Entry"
      else if name = "CDA_RESTRICT_READS" then some "true "
      else if name = "CDA_OFFICE" then some " cwms "
      else if name = "CDA_DEFAULT_CACHE" then some " 1 h" else none
    let signed : Variables := .only "CDA_DEFAULT_CACHE" "+1h"
    ∃ settings, load vars = .ok (settings, []) ∧ settings.SoundFor vars ∧
      settings.cache = ⟨1, .hours⟩ ∧ settings.servedOffice = reservedName ∧
      settings.access.policy.authorize .fetchAll ["Data Entry"] = .allow ∧
      settings.access.policy.authorize .fetchAll [] = .deny "missing role" ∧
      ∃ fault, read signed = .error fault := by
  intro vars signed
  have isRead : read vars = .ok (ofVariables vars ⟨1, .hours⟩) := by decide +kernel
  have loaded : load vars = .ok (ofVariables vars ⟨1, .hours⟩, []) :=
    load_eq_ok_iff.mpr ⟨isRead, by decide +kernel⟩
  have noRule : ∀ rule, ¬ CacheRule.Writes "+1h" rule :=
    ((CacheRule.parse_eq_error_iff _ _).mp
      (by decide +kernel : CacheRule.parse "+1h" = .error (.invalidCacheDuration "+1h"))).1
  have sound := (loaded_settings_sound vars).1 _ _ loaded
  have restricted : (ofVariables vars ⟨1, .hours⟩).access.restrictReads = true := by decide +kernel
  refine ⟨_, loaded, sound, rfl, by decide +kernel, ?_, ?_,
    (loaded_settings_sound signed).2.mpr ⟨"+1h", rfl, noRule⟩⟩
  · exact sound.opened "Data Entry" (by decide +kernel) _ List.mem_cons_self _
  · rw [sound.restricted restricted .fetchAll .delete]
    exact sound.closed .delete rfl

end Sluice.Server.Settings
