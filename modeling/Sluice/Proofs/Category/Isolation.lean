import Sluice.Proofs.Category.Keeper
import Sluice.Proofs.Resource.Offices
import Sluice.Proofs.Server.Answers

/-!
# Offices keep to themselves

A server of categories asks its database for one office: every statement of a request binds the office
of the server, whatever the request names, and only a listing binds another one, by its filter.
`Keeper` says what little a database must do with such statements. In any such database, the
categories of all other offices are the same after a request as before, and those that are found by
their identifier belong to the office of the server.
-/

namespace Sluice.Server.Settings

/-- The office of every request is in capitals. -/
theorem upper_servedOffice (settings : Settings) :
    Text.upper settings.servedOffice = settings.servedOffice := by
  unfold servedOffice offices
  cases settings.office with
  | none => exact (Resource.isNormalOffice_officeOfPath settings.server.contextPath).capital
  | some office => exact Text.upper_upper office

end Sluice.Server.Settings

namespace Sluice.Category

open Resource Database

/-- The office for which an operation asks the database: that of the server, but for a listing the
capitals of what its filter names. -/
def askedOffice (office : String) (request : Request) : Operation → String
  | .fetchAll =>
    ((Listing.criterion? (.ofUri request.uri) "office").map Text.upper).getD office
  | .fetchOne | .create | .update | .delete => office

/-- A listing is of the office for which it asks. -/
theorem office_ofFilters {office : String} (isCapital : Text.upper office = office)
    (request : Request) :
    (Listing.ofFilters (.ofUri request.uri) office).office =
      askedOffice office request .fetchAll := by
  unfold Listing.ofFilters askedOffice
  cases Listing.criterion? (.ofUri request.uri) "office" with
  | none => exact isCapital
  | some text => rfl

/-- Every statement of a request binds first the office for which its operation asks. -/
theorem head?_parameters_of_asks {office : String} (isCapital : Text.upper office = office)
    {request : Request} {statement : Statement} {operation : Operation}
    (asks : Asks office request statement operation) :
    statement.parameters.head? = some (some (askedOffice office request operation)) := by
  cases operation with
  | fetchOne =>
    obtain ⟨id, rfl⟩ := asks
    rfl
  | fetchAll =>
    obtain rfl : statement = (Listing.ofFilters (.ofUri request.uri) office).statement := asks
    rw [← office_ofFilters isCapital]
    rfl
  | create =>
    obtain ⟨command, _, rfl⟩ := asks
    rfl
  | update => cases asks
  | delete =>
    obtain ⟨id, rfl | rfl⟩ := asks
    · rfl
    · rfl

namespace CreateCommand

/-- A command is accepted if there is nothing wrong with it. -/
theorem validate_eq_ok_iff {command : CreateCommand} {office : String} :
    command.validate office = .ok () ↔ command.faults office = [] := by
  simp only [validate, List.isEmpty_iff]
  split
  · next faultless => exact iff_of_true rfl faultless
  · next faulty => exact iff_of_false (by rintro ⟨⟩) faulty

/-- A command that is accepted names no office but its own, in some letter case. -/
theorem alike_of_validate {command : CreateCommand} {office text : String}
    (accepted : command.validate office = .ok ()) (names : command.officeId = some text) :
    (Text.trim text).map Char.toLower = office.map Char.toLower := by
  by_contra other
  have fault : command.officeFault office = some ("must be " ++ office) := by
    simp only [officeFault, names, if_neg other]
  have faultless := validate_eq_ok_iff.mp accepted
  simp [faults, fault] at faultless

end CreateCommand

/-- A command that names another office is refused. -/
theorem commandOf_of_other_office {office : String} {payload : Payload} {command : CreateCommand}
    {text : String} (reads : payload.json CreateCommand.shape.reader = .ok command)
    (names : command.officeId = some text)
    (other : (Text.trim text).map Char.toLower ≠ office.map Char.toLower) :
    ∃ failure, commandOf office payload = .error failure := by
  simp only [commandOf, reads, bind, Except.bind]
  cases accepted : command.validate office with
  | ok _ => exact absurd (CreateCommand.alike_of_validate accepted names) other
  | error failure => exact ⟨failure, rfl⟩

/-! ## Keeping to an office -/

/-- Some statements of an operation keep to an office. -/
structure KeepsTo (office : String) (request : Request) (operation : Operation)
    (statements : List Statement) : Prop where
  /-- They are statements of the operation, for the office. -/
  asks : ∀ statement ∈ statements, Asks office request statement operation
  /-- What they bind first is the office for which the operation asks. -/
  binds : ∀ statement ∈ statements,
    statement.parameters.head? = some (some (askedOffice office request operation))
  /-- The creation of a category that is to belong to another office has nothing asked. -/
  foreign : operation = .create → ∀ command text,
    request.carried.json CreateCommand.shape.reader = .ok command →
    command.officeId = some text →
    (Text.trim text).map Char.toLower ≠ office.map Char.toLower → statements = []
  /-- Every category that is found by its identifier, in any database, belongs to the office. -/
  finds : operation = .fetchOne → ∀ (keeper : Keeper) (state : keeper.State),
    ∀ statement ∈ statements, ∀ columns ∈ keeper.found statement state,
      ∃ category ∈ keeper.categories state,
        category.officeId = office ∧ columns = category.row

theorem keepsTo_of_asks {office : String} (isCapital : Text.upper office = office)
    {request : Request} {operation : Operation} {statements : List Statement}
    (each : ∀ statement ∈ statements, Asks office request statement operation) :
    KeepsTo office request operation statements := by
  constructor
  case asks => exact each
  case binds =>
    intro statement member
    exact head?_parameters_of_asks isCapital (each statement member)
  case foreign =>
    rintro rfl command text reads names other
    obtain ⟨failure, refused⟩ := commandOf_of_other_office reads names other
    -- Only a command that is accepted has a statement.
    apply List.eq_nil_iff_forall_not_mem.mpr
    intro statement member
    obtain ⟨_, accepted, _⟩ := each statement member
    rw [refused] at accepted
    cases accepted
  case finds =>
    rintro rfl keeper state statement member columns isFound
    obtain ⟨id, rfl⟩ := each statement member
    obtain ⟨category, held, belongs, _, same⟩ := keeper.finding office id state columns isFound
    exact ⟨category, held, belongs, same⟩

/-! ## What requests have asked -/

/-- The source is checked as the session is. -/
theorem store_check (shared : Shared Session) :
    (source.check shared).2.store = shared.store.check.2 := by
  simp only [source]
  cases shared.store.check with
  | mk outcome after => cases outcome <;> rfl

section Assembled

variable {policy : AccessPolicy} {settings : Server.Settings} {registry : Registry Session}
  {application : Server.Application Session}
  (built : Category.registry policy = .ok registry)
  (assembled : Server.Application.assemble? settings registry source = some application)

include built assembled

/-- A request for an operation has the database asked what the operation asks for the office of the
server. -/
theorem asked_of_bound {request : Request} {binding : Binding Session} {captures : Route.Captures}
    (bound : application.binding? request = some (binding, captures)) (incident : Incident)
    (shared : Shared Session) :
    ∃ statements, (application.serve request incident shared).shared.store.asked =
        shared.store.asked ++ statements ∧
      ∀ statement ∈ statements,
        Asks settings.servedOffice request statement binding.operation := by
  have office : application.engine.office = settings.servedOffice := by
    rw [(Server.Application.parts_of_assemble? assembled).1]
    rfl
  have member := Server.Application.mem_of_binding? assembled bound
  rcases Server.Application.store_serve_of_bound bound incident shared with
    kept | ⟨caller, identifier, acted⟩
  · exact ⟨[], by rw [kept, List.append_nil], by simp⟩
  · rw [acted, office]
    exact (confined_binding built member ⟨settings.servedOffice, caller⟩ identifier request).asked
      shared.store

omit built

/-- Any other request has it checked at most. -/
theorem asked_of_unbound {request : Request} (unbound : application.binding? request = none)
    (incident : Incident) (shared : Shared Session) :
    ∃ statements, (application.serve request incident shared).shared.store.asked =
        shared.store.asked ++ statements ∧
      ∀ statement ∈ statements, statement = Session.checkStatement := by
  rcases Server.Application.store_serve_of_unbound unbound incident shared with kept | checked
  · exact ⟨[], by rw [kept, List.append_nil], by simp⟩
  · rw [checked, (Server.Application.build?_of_assemble? assembled).2, store_check]
    refine ⟨_, shared.store.asked_check, ?_⟩
    intro statement member
    split at member
    · cases member
    · exact List.mem_singleton.mp member

end Assembled

/-- Whatever is asked of a server of categories and however the database answers, the statements of a
request for an operation keep to the office of the server, and those of any other request only check
the database. In no database that keeps categories does a request touch those of another office. -/
theorem requests_keep_to_office {policy : AccessPolicy} {settings : Server.Settings}
    {registry : Registry Session} {application : Server.Application Session}
    (built : Category.registry policy = .ok registry)
    (assembled : Server.Application.assemble? settings registry source = some application)
    (request : Request) (incident : Incident) (shared : Shared Session) :
    ∃ statements, (application.serve request incident shared).shared.store.asked =
        shared.store.asked ++ statements ∧
      (match application.binding? request with
        | some (binding, _) =>
          KeepsTo settings.servedOffice request binding.operation statements
        | none => ∀ statement ∈ statements, statement = Session.checkStatement) ∧
      ∀ (keeper : Keeper) (state : keeper.State),
        keeper.elsewhere settings.servedOffice (keeper.afterAll statements state) =
          keeper.elsewhere settings.servedOffice state := by
  cases bound : application.binding? request with
  | none =>
    obtain ⟨statements, asked, each⟩ := asked_of_unbound assembled bound incident shared
    refine ⟨statements, asked, each, fun keeper => keeper.elsewhere_afterAll ?_⟩
    intro statement member
    rw [each statement member]
    exact keeper.spares_question .check
  | some found =>
    obtain ⟨binding, captures⟩ := found
    obtain ⟨statements, asked, each⟩ := asked_of_bound built assembled bound incident shared
    refine ⟨statements, asked, keepsTo_of_asks settings.upper_servedOffice each, fun keeper =>
      keeper.elsewhere_afterAll ?_⟩
    intro statement member
    exact keeper.spares_of_asks (each statement member)

/-- A clerk of headquarters deletes a category whose namesake belongs to another office. -/
theorem deletion_keeps_to_office :
    let settings : Server.Settings := .standard
    let request : Request :=
      ⟨.delete, ⟨"/cwms-data/location/category/basin".toList, none⟩, [], [],
        some (.named "clerk" ["CWMS Users"])⟩
    let shared : Shared Session := .start (.ofAnswers [.rows [], .changed 1])
    let state : List Category := [⟨"HQ", "Basin", none⟩, ⟨"SPK", "Basin", none⟩]
    let elsewhere : List Category → Set Category := Keeper.listed.elsewhere settings.servedOffice
    ∃ registry application, Category.registry settings.access.policy = .ok registry ∧
      Server.Application.assemble? settings registry source = some application ∧
      ∃ statements, statements = [membersStatement "HQ" "basin", removeStatement "HQ" "basin"] ∧
        (application.serve request ⟨0⟩ shared).shared.store.asked = statements ∧
        (Keeper.listed.afterAll statements state : List Category) = [⟨"SPK", "Basin", none⟩] ∧
        elsewhere (Keeper.listed.afterAll statements state) = elsewhere state := by
  intro settings request shared state elsewhere
  have serves : (match Category.registry settings.access.policy with
      | .ok registry =>
        (Server.Application.assemble? settings registry source).map fun application =>
          (application.serve request ⟨0⟩ shared).shared.store.asked
      | .error _ => none) =
      some [membersStatement "HQ" "basin", removeStatement "HQ" "basin"] := by
    decide +kernel
  split at serves
  · next registry built =>
    obtain ⟨application, assembled, listed⟩ := Option.map_eq_some_iff.mp serves
    obtain ⟨statements, asked, _, untouched⟩ :=
      requests_keep_to_office built assembled request ⟨0⟩ shared
    have same : statements = [membersStatement "HQ" "basin", removeStatement "HQ" "basin"] :=
      asked.symm.trans listed
    have left : [membersStatement "HQ" "basin", removeStatement "HQ" "basin"].foldl
        (fun state statement => listAfter statement state) state = [⟨"SPK", "Basin", none⟩] := by
      decide +kernel
    exact ⟨registry, application, built, assembled, statements, same, asked, same ▸ left,
      untouched Keeper.listed state⟩
  · cases serves

end Sluice.Category
