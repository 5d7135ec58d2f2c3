import Sluice.Proofs.Category.Isolation
import Sluice.Proofs.Resource.Access

/-!
# One office for all operations

A server finds its office once, and every operation asks for that office unless a listing is given
another one. The listing takes capitals of what it is given with all rules for letter case, while the
creation of a category compares an office that is given in the case of ASCII letters alone. The two
agree: whatever the creation accepts, the listing takes for the office of the server.
-/

namespace Sluice.Category

open Resource Database

/-- A statement is for an office: that is what it binds first. -/
def IsFor (office : String) (statement : Statement) : Prop :=
  statement.parameters.head? = some (some office)

/-- An action asks for an office: it asks something, and all that it asks is for the office. -/
def AsksFor (office : String) (action : Action Session) : Prop :=
  ∀ session, ∃ statements, (action session).store.asked = session.asked ++ statements ∧
    statements ≠ [] ∧ ∀ statement ∈ statements, IsFor office statement

theorem asksFor_of_one {office : String} {action : Action Session} {statement : Statement}
    (asked : ∀ session, (action session).store.asked = session.asked ++ [statement])
    (isFor : IsFor office statement) : AsksFor office action := by
  intro session
  refine ⟨[statement], asked session, List.cons_ne_nil _ _, ?_⟩
  intro other member
  rwa [List.mem_singleton.mp member]

/-- What may be named as the office of a category that is created in an office. -/
def Accepts (office text : String) : Prop :=
  ∃ command : CreateCommand, command.officeId = some text ∧ command.validate office = .ok ()

/-- That is the office in any case of ASCII letters, with any white space around it. -/
theorem accepts_iff {office text : String} :
    Accepts office text ↔ (Text.trim text).map Char.toLower = office.map Char.toLower := by
  constructor
  · rintro ⟨command, names, accepted⟩
    exact CreateCommand.alike_of_validate accepted names
  · intro alike
    have faultless : CreateCommand.faults ⟨some text, "basin", none⟩ office = [] := by
      have named : CreateCommand.idFault ⟨none, "basin", none⟩ = none := by decide +kernel
      have ofId : CreateCommand.idFault ⟨some text, "basin", none⟩ = none := named
      simp [CreateCommand.faults, ofId, CreateCommand.descriptionFault, CreateCommand.officeFault,
        alike]
    exact ⟨⟨some text, "basin", none⟩, rfl, CreateCommand.validate_eq_ok_iff.mpr faultless⟩

namespace Listing

/-- Nothing is asked for by a filter that is missing or blank. -/
theorem criterion?_eq_none_iff {filters : Filters} {name : String} :
    criterion? filters name = none ↔
      ∀ text, filters.get? name = some text → Text.isBlankText text = true := by
  rw [criterion?, Option.bind_eq_none_iff]
  simp only [Text.trimmed?_eq_none_iff]

/-- What is asked for is the trimmed text, in its letter case. -/
theorem criterion?_eq_some_iff {filters : Filters} {name pattern : String} :
    criterion? filters name = some pattern ↔
      ∃ text, filters.get? name = some text ∧ Text.trim text = pattern ∧ pattern ≠ "" := by
  rw [criterion?, Option.bind_eq_some_iff]
  simp only [Text.trimmed?_eq_some_iff]

/-- Without an office of its own, a listing is of the office of the request. -/
theorem office_of_unnamed {filters : Filters} {office : String}
    (isCapital : Text.upper office = office)
    (unnamed : ∀ text, filters.get? "office" = some text → Text.isBlankText text = true) :
    (ofFilters filters office).office = office := by
  rw [ofFilters, criterion?_eq_none_iff.mpr unnamed]
  exact isCapital

/-- It is of that office as well if what it names may be named in a creation. -/
theorem office_of_accepts {filters : Filters} {office text : String}
    (isCapital : Text.upper office = office) (names : filters.get? "office" = some text)
    (accepts : Accepts office text) : (ofFilters filters office).office = office := by
  cases asked : criterion? filters "office" with
  | none =>
    rw [ofFilters, asked]
    exact isCapital
  | some inner =>
    obtain ⟨other, same, rfl, _⟩ := criterion?_eq_some_iff.mp asked
    obtain rfl := Option.some.inj (names.symm.trans same)
    have alike := accepts_iff.mp accepts
    rw [ofFilters, asked, Option.getD_some, Text.upper_eq_of_map_toLower alike, isCapital]

end Listing

/-! ## Operations -/

theorem asksFor_find (context : Context) (id : String) :
    AsksFor context.office (find context id) :=
  asksFor_of_one (fun session => session.asked_select _) rfl

theorem asksFor_create {context : Context} {payload : Payload} {command : CreateCommand}
    (accepted : commandOf context.office payload = .ok command) :
    AsksFor context.office (create context payload) :=
  asksFor_of_one (asked_create accepted) rfl

theorem asksFor_delete (context : Context) (id : String) :
    AsksFor context.office (delete context id) := by
  intro session
  rcases asked_delete context id session with asked | asked
  · refine ⟨_, asked, List.cons_ne_nil _ _, fun statement member => ?_⟩
    obtain rfl := List.mem_singleton.mp member
    rfl
  · refine ⟨_, asked, List.cons_ne_nil _ _, fun statement member => ?_⟩
    rcases List.mem_pair.mp member with rfl | rfl
    · rfl
    · rfl

/-- A listing asks for the office that it is of. -/
theorem asksFor_list {context : Context} {filters : Filters}
    (same : (Listing.ofFilters filters context.office).office = context.office) :
    AsksFor context.office (list context filters) :=
  asksFor_of_one (fun session => session.asked_select _) (congrArg (some ∘ some) same)

/-- All operations of a server ask for its office, however the office is found: a category is found,
created and deleted in it, and listings are of it if they name no office or one that may be named in a
creation. The pattern of a listing is the trimmed filter in its letter case, and there is none exactly
if the filter is missing or blank. -/
theorem operations_agree_on_office (settings : Server.Settings) (caller : Option Caller) :
    let office := settings.servedOffice
    let context : Context := ⟨office, caller⟩
    (∀ id, AsksFor office (find context id)) ∧
    (∀ payload command, commandOf office payload = .ok command →
      AsksFor office (create context payload)) ∧
    (∀ id, AsksFor office (delete context id)) ∧
    (∀ filters,
      (∀ text, filters.get? "office" = some text → Text.isBlankText text = true) →
      (Listing.ofFilters filters office).office = office ∧ AsksFor office (list context filters)) ∧
    (∀ filters text, filters.get? "office" = some text → Accepts office text →
      (Listing.ofFilters filters office).office = office ∧ AsksFor office (list context filters)) ∧
    ∀ filters,
      ((Listing.ofFilters filters office).like = none ↔
        ∀ text, filters.get? "like" = some text → Text.isBlankText text = true) ∧
      ∀ pattern, (Listing.ofFilters filters office).like = some pattern ↔
        ∃ text, filters.get? "like" = some text ∧ Text.trim text = pattern ∧ pattern ≠ "" := by
  intro office context
  have isCapital : Text.upper office = office := settings.upper_servedOffice
  refine ⟨asksFor_find context, ?created, asksFor_delete context, ?unnamed, ?accepted, ?like⟩
  case created =>
    intro payload command accepted
    have inContext : commandOf context.office payload = .ok command := accepted
    exact asksFor_create inContext
  case unnamed =>
    intro filters unnamed
    have same := Listing.office_of_unnamed isCapital unnamed
    exact ⟨same, asksFor_list same⟩
  case accepted =>
    intro filters text names accepts
    have same := Listing.office_of_accepts isCapital names accepts
    exact ⟨same, asksFor_list same⟩
  case like =>
    intro filters
    exact ⟨Listing.criterion?_eq_none_iff, fun pattern => Listing.criterion?_eq_some_iff⟩

/-- An office that the path names with a letter that has two capitals: a creation asks for it and
accepts it in other letter case, and so does a listing. -/
theorem recased_office_listed :
    let settings : Server.Settings :=
      { Server.Settings.standard with server.contextPath := "/straße-data" }
    let office := settings.servedOffice
    let payload : Payload := ⟨none, Text.Utf8.encode "\x7b\"id\":\"basin\"\x7d"⟩
    let filters : Filters := .ofPairs [("office", " Strasse "), ("like", " Basin% ")]
    let blank : Filters := .ofPairs [("office", " ")]
    office = "STRASSE" ∧ Accepts office " Strasse " ∧
      (∃ command, commandOf office payload = .ok command) ∧
      AsksFor office (create ⟨office, none⟩ payload) ∧
      Listing.ofFilters filters office = ⟨"STRASSE", some "Basin%"⟩ ∧
      Listing.ofFilters blank office = ⟨"STRASSE", none⟩ := by
  intro settings office payload filters blank
  have served : office = "STRASSE" := by decide +kernel
  obtain ⟨_, created, _, unnamed, accepted, like⟩ := operations_agree_on_office settings none
  rw [show settings.servedOffice = "STRASSE" from served] at created unnamed accepted like
  rw [served]
  have accepts : Accepts "STRASSE" " Strasse " := by
    rw [accepts_iff, ← String.toList_inj, String.toList_map, String.toList_map]
    decide +kernel
  have commanded : ∃ command, commandOf "STRASSE" payload = .ok command := by
    have reads : (commandOf "STRASSE" payload).isOk = true := by decide +kernel
    cases read : commandOf "STRASSE" payload with
    | ok command => exact ⟨command, rfl⟩
    | error failure =>
      rw [read] at reads
      cases reads
  have names : filters.get? "office" = some " Strasse " := by decide +kernel
  have isBlank : ∀ text, blank.get? "office" = some text → Text.isBlankText text = true := by
    have given : blank.get? "office" = some " " := by decide +kernel
    simp only [given, Option.some.injEq, forall_eq']
    decide
  have missing : ∀ text, blank.get? "like" = some text → Text.isBlankText text = true := by
    have given : blank.get? "like" = none := by decide +kernel
    simp [given]
  have pattern : (Listing.ofFilters filters "STRASSE").like = some "Basin%" :=
    ((like filters).2 "Basin%").mpr ⟨" Basin% ", by decide +kernel⟩
  obtain ⟨command, read⟩ := commanded
  refine ⟨rfl, accepts, ⟨command, read⟩, created payload command read, ?_, ?_⟩
  · exact congrArg₂ Listing.mk (accepted filters " Strasse " names accepts).1 pattern
  · exact congrArg₂ Listing.mk (unnamed blank isBlank).1 ((like blank).1.mpr missing)

end Sluice.Category
