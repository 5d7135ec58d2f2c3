import Sluice.Proofs.Category.Deletion
import Sluice.Proofs.Category.Isolation
import Sluice.Proofs.Category.Served
import Sluice.Proofs.Text.Entries
import Sluice.Proofs.Text.Trimming

/-!
# What a creation writes

`CreateCommand.Misfit` lists what can be wrong with the fields of a command, each for itself. A command
with which nothing is wrong is stored as one row that the table holds; otherwise everything that is
wrong is reported at once and nothing is asked of the database.
-/

namespace Sluice.Database.Answer

/-- An answer that is an error concerns no rows. -/
theorem not_concerns_of_fails {answer : Answer} {error : Error} (fails : answer.Fails error)
    (count : Nat) : ¬ answer.Concerns count := by
  rcases fails with rfl | ⟨fault, rfl, _⟩
  · rintro (⟨⟨⟩⟩ | ⟨_, ⟨⟩, _⟩)
  · rintro (⟨⟨⟩⟩ | ⟨_, ⟨⟩, _⟩)

end Sluice.Database.Answer

namespace Sluice.Category

open Database Resource

namespace CreateCommand

variable {command : CreateCommand} {office key text : String}

/-! ## Faults -/

/-- What is wrong with a field of a command in an office, and what is said about it. Around what is
given for the office white space does not matter, but around the office itself it does. -/
inductive Misfit (command : CreateCommand) (office : String) : String → String → Prop where
  | blankId (blank : Text.trim command.id = "") : Misfit command office "id" "is required"
  | longId (long : 32 < (Text.trim command.id).length) :
      Misfit command office "id" "must be at most 32 characters"
  | longDescription {text : String} (given : command.description = some text)
      (long : 128 < text.length) :
      Misfit command office "description" "must be at most 128 characters"
  | otherOffice {text : String} (given : command.officeId = some text)
      (differs : (Text.trim text).map Char.toLower ≠ office.map Char.toLower) :
      Misfit command office "office-id" ("must be " ++ office)

theorem idFault_eq_some_iff :
    command.idFault = some text ↔
      Text.trim command.id = "" ∧ text = "is required" ∨
        32 < (Text.trim command.id).length ∧ text = "must be at most 32 characters" := by
  have worded : tooLong maxIdLength = "must be at most 32 characters" := by decide
  have short : Text.trim command.id = "" → ¬ 32 < (Text.trim command.id).length := by
    intro blank long
    rw [blank] at long
    exact absurd long (by decide)
  simp only [idFault, String.isEmpty_iff, maxIdLength] at worded ⊢
  split_ifs with blank long
  · simp [blank, eq_comm]
  · simp [blank, long, worded, eq_comm]
  · simp [blank, long]

theorem descriptionFault_eq_some_iff :
    command.descriptionFault = some text ↔
      (∃ given, command.description = some given ∧ 128 < given.length) ∧
        text = "must be at most 128 characters" := by
  have worded : tooLong maxDescriptionLength = "must be at most 128 characters" := by decide
  unfold descriptionFault
  cases command.description with
  | none => simp
  | some given =>
    simp only [maxDescriptionLength] at worded ⊢
    split_ifs with long <;> simp [long, worded, eq_comm]

theorem officeFault_eq_some_iff :
    command.officeFault office = some text ↔
      (∃ given, command.officeId = some given ∧
        (Text.trim given).map Char.toLower ≠ office.map Char.toLower) ∧
        text = "must be " ++ office := by
  unfold officeFault
  cases command.officeId with
  | none => simp
  | some given =>
    simp only
    split_ifs with same
    · simp [same]
    · simp [same, @eq_comm _ text]

/-- Everything that is wrong is found, and nothing else. -/
theorem mem_faults_iff : (key, text) ∈ command.faults office ↔ command.Misfit office key text := by
  simp only [faults, List.mem_append, Option.mem_toList, Option.map_eq_some_iff, Prod.mk.injEq,
    idFault_eq_some_iff, descriptionFault_eq_some_iff, officeFault_eq_some_iff]
  constructor
  · rintro ((⟨_, ⟨blank, rfl⟩ | ⟨long, rfl⟩, rfl, rfl⟩ | ⟨_, ⟨⟨given, isGiven, long⟩, rfl⟩, rfl, rfl⟩) |
      ⟨_, ⟨⟨given, isGiven, differs⟩, rfl⟩, rfl, rfl⟩)
    · exact .blankId blank
    · exact .longId long
    · exact .longDescription isGiven long
    · exact .otherOffice isGiven differs
  · intro misfit
    cases misfit with
    | blankId blank => exact .inl (.inl ⟨_, .inl ⟨blank, rfl⟩, rfl, rfl⟩)
    | longId long => exact .inl (.inl ⟨_, .inr ⟨long, rfl⟩, rfl, rfl⟩)
    | longDescription given long => exact .inl (.inr ⟨_, ⟨⟨_, given, long⟩, rfl⟩, rfl, rfl⟩)
    | otherOffice given differs => exact .inr ⟨_, ⟨⟨_, given, differs⟩, rfl⟩, rfl, rfl⟩

/-- Of one field at most one thing is wrong. -/
theorem nodup_faults (command : CreateCommand) (office : String) :
    ((command.faults office).map (·.1)).Nodup := by
  have part (key : String) (fault : Option String) :
      List.Sublist ((fault.map fun text => (key, text)).toList.map (·.1)) [key] := by
    cases fault with
    | none => exact List.nil_sublist _
    | some text => exact List.Sublist.refl _
  have names : List.Sublist ((command.faults office).map (·.1)) ["id", "description", "office-id"] := by
    rw [faults, List.map_append, List.map_append]
    exact ((part "id" _).append (part "description" _)).append (part "office-id" _)
  exact names.nodup (by decide)

theorem validate_eq_ok_iff_fits :
    command.validate office = .ok () ↔ ∀ key text, ¬ command.Misfit office key text := by
  simp only [validate_eq_ok_iff, List.eq_nil_iff_forall_not_mem, Prod.forall, mem_faults_iff]

/-! ## Reports -/

/-- The details of a failure say of each field what is wrong with it, once, and of no other. -/
structure Reports (command : CreateCommand) (office : String) (details : Json.Members) : Prop where
  once : (details.map (·.1)).Nodup
  all : ∀ key value, (key, value) ∈ details ↔
    ∃ text, value = .text text ∧ command.Misfit office key text

/-- A command with which something is wrong is refused with all that is wrong. -/
theorem validate_of_misfit (misfit : command.Misfit office key text) :
    ∃ details, command.validate office = .error (.validation "Invalid location category" details) ∧
      command.Reports office details := by
  have member : (key, text) ∈ command.faults office := mem_faults_iff.mpr misfit
  have faulty : (command.faults office).isEmpty = false :=
    Bool.eq_false_iff.mpr fun none => List.ne_nil_of_mem member (List.isEmpty_iff.mp none)
  refine ⟨Json.Members.ofList ((command.faults office).map fun fault => (fault.1, .text fault.2)),
    ?_, ?_, ?_⟩
  · simp only [validate, faulty, Bool.false_eq_true, if_false]
  · exact (Entries.isOrdered_ofPairs _).nodup
  · intro key value
    have distinct : (((command.faults office).map fun fault => (fault.1, Json.text fault.2)).map
        (·.1)).Nodup := by
      rw [List.map_map]
      exact command.nodup_faults office
    rw [Json.Members.ofList, Entries.mem_ofPairs_iff distinct, List.mem_map]
    constructor
    · rintro ⟨fault, isFault, same⟩
      obtain ⟨rfl, rfl⟩ := Prod.mk.inj same
      exact ⟨fault.2, rfl, mem_faults_iff.mp isFault⟩
    · rintro ⟨text, rfl, misfit⟩
      exact ⟨(key, text), mem_faults_iff.mpr misfit, rfl⟩

/-! ## Rows -/

/-- A statement stores a row that the table holds, with the identifier of the command trimmed and its
description as it is. -/
structure IsStoredBy (command : CreateCommand) (office : String) (statement : Statement) :
    Prop where
  sql : statement.sql =
    "INSERT INTO location_category (office_code, category_id, description) VALUES ($1, $2, $3)"
  parameters : statement.parameters = [some office, some (Text.trim command.id), command.description]
  tidy : Text.IsTidy (Text.trim command.id).toList
  filled : 1 ≤ (Text.trim command.id).length
  idFits : (Text.trim command.id).length ≤ 32
  descriptionFits : ∀ text, command.description = some text → text.length ≤ 128

theorem isStoredBy_of_fits (fits : ∀ key text, ¬ command.Misfit office key text) :
    command.IsStoredBy office (command.statement office) where
  sql := rfl
  parameters := rfl
  tidy := by
    rw [Text.trim, String.toList_ofList]
    exact Text.isTidy_trimChars _
  filled := by
    refine Nat.one_le_iff_ne_zero.mpr fun none => fits _ _ (.blankId ?_)
    exact String.length_eq_zero_iff.mp none
  idFits := Nat.le_of_not_lt fun long => fits _ _ (.longId long)
  descriptionFits _ given := Nat.le_of_not_lt fun long => fits _ _ (.longDescription given long)

end CreateCommand

/-! ## Creations -/

/-- The body of a request holds a command with which nothing is wrong. -/
def Admits (office : String) (payload : Payload) (command : CreateCommand) : Prop :=
  payload.json CreateCommand.shape.reader = .ok command ∧
    ∀ key text, ¬ command.Misfit office key text

section Creations

variable {context : Context} {payload : Payload} {session : Session} {command : CreateCommand}
  {failure : Failure}

theorem commandOf_of_unread (unread : payload.json CreateCommand.shape.reader = .error failure) :
    commandOf context.office payload = .error failure := by
  simp only [commandOf, unread, bind, Except.bind]

theorem commandOf_of_admits (admits : Admits context.office payload command) :
    commandOf context.office payload = .ok command := by
  obtain ⟨read, fits⟩ := admits
  simp only [commandOf, read, CreateCommand.validate_eq_ok_iff_fits.mpr fits, bind, Except.bind,
    pure, Except.pure]

theorem commandOf_of_invalid (read : payload.json CreateCommand.shape.reader = .ok command)
    (invalid : command.validate context.office = .error failure) :
    commandOf context.office payload = .error failure := by
  simp only [commandOf, read, invalid, bind, Except.bind]

/-- A body holds no two commands. -/
theorem Admits.eq {other : CreateCommand} (admits : Admits context.office payload command)
    (again : Admits context.office payload other) : other = command :=
  Except.ok.inj (again.1.symm.trans admits.1)

/-- A request without a command that fits leaves the database alone. -/
theorem create_of_refused (refused : commandOf context.office payload = .error failure) :
    create context payload session = ⟨.error failure, session, []⟩ := by
  rw [create, refused]

theorem create_of_concerns (admits : Admits context.office payload command) {count : Nat}
    (concerns : session.next.Concerns count) :
    (create context payload session).result = .ok .created ∧
      (create context payload session).events = [command.createdEvent context.office] := by
  have executed : (session.execute (command.statement context.office)).1 = .ok count :=
    Session.execute_eq_ok_iff.mpr concerns
  rw [create, commandOf_of_admits admits]
  dsimp only
  split
  · next failed =>
    rw [failed] at executed
    cases executed
  · exact ⟨rfl, rfl⟩

theorem create_of_fails (admits : Admits context.office payload command) {error : Error}
    (fails : session.next.Fails error) :
    (create context payload session).result = .error (.database error) ∧
      (create context payload session).events = [] := by
  have executed : (session.execute (command.statement context.office)).1 = .error error :=
    Session.execute_eq_error_iff.mpr fails
  rw [create, commandOf_of_admits admits]
  dsimp only
  split
  · next failed =>
    rw [failed] at executed
    obtain rfl := Except.error.inj executed
    exact ⟨rfl, rfl⟩
  · next done =>
    rw [done] at executed
    cases executed

/-- What a creation does. -/
structure Creates (context : Context) (payload : Payload) (session : Session)
    (outcome : Outcome Session) : Prop where
  /-- One insertion is asked for if the body holds a command that fits, and nothing otherwise. -/
  asks : ∀ statements, outcome.store.asked = session.asked ++ statements ↔
    (∃ command, Admits context.office payload command ∧
      statements = [command.statement context.office]) ∨
    (∀ command, ¬ Admits context.office payload command) ∧ statements = []
  /-- What is inserted is what has been checked. -/
  stores : ∀ command, Admits context.office payload command →
    command.IsStoredBy context.office (command.statement context.office)
  /-- Success is replied exactly if the insertion succeeds. -/
  replies : ∀ reply, outcome.result = .ok reply ↔
    reply = .empty 201 ∧ (∃ command, Admits context.office payload command) ∧
      ∃ count, session.next.Concerns count
  /-- Success is reported exactly if the insertion succeeds. -/
  logs : ∀ events, outcome.events = events ↔
    (∃ command count, Admits context.office payload command ∧ session.next.Concerns count ∧
      events = [command.createdEvent context.office]) ∨
    (∀ command count, Admits context.office payload command → ¬ session.next.Concerns count) ∧
      events = []
  /-- An error of the database is passed on. -/
  fails : ∀ command error, Admits context.office payload command → session.next.Fails error →
    outcome.result = .error (.database error)
  /-- A body that cannot be read is refused for that. -/
  unread : ∀ failure, payload.json CreateCommand.shape.reader = .error failure →
    outcome = ⟨.error failure, session, []⟩
  /-- Everything that is wrong with a command is reported, field by field. -/
  refuses : ∀ command key text, payload.json CreateCommand.shape.reader = .ok command →
    command.Misfit context.office key text →
    ∃ details,
      outcome = ⟨.error (.validation "Invalid location category" details), session, []⟩ ∧
      command.Reports context.office details ∧
      ∀ incident,
        let ruling := Ruling.of incident (.validation "Invalid location category" details)
        ruling.status = 400 ∧ ruling.envelope.details = some details ∧ ruling.envelope.fields = true

/-- Without a command that fits there is neither a statement nor a success. -/
theorem creates_of_refused (none : ∀ command, ¬ Admits context.office payload command)
    (refused : create context payload session = ⟨.error failure, session, []⟩)
    (unread : ∀ other, payload.json CreateCommand.shape.reader = .error other → other = failure)
    (misfits : ∀ command key text, payload.json CreateCommand.shape.reader = .ok command →
      command.Misfit context.office key text →
      ∃ details, failure = .validation "Invalid location category" details ∧
        command.Reports context.office details) :
    Creates context payload session (create context payload session) := by
  rw [refused]
  constructor
  case asks => simp [none]
  case stores => exact fun command admits => absurd admits (none command)
  case replies => simp [none]
  case logs => simp [none, eq_comm]
  case fails => exact fun command _ admits => absurd admits (none command)
  case unread =>
    intro other isRead
    rw [unread other isRead]
  case refuses =>
    intro command key text read misfit
    obtain ⟨details, rfl, reports⟩ := misfits command key text read misfit
    exact ⟨details, rfl, reports, fun _ => ⟨rfl, rfl, rfl⟩⟩

/-- A command that fits is inserted, and the answer settles the rest. -/
theorem creates_of_admits (admits : Admits context.office payload command) :
    Creates context payload session (create context payload session) := by
  have only (other : CreateCommand) : Admits context.office payload other ↔ other = command :=
    ⟨admits.eq, fun same => same ▸ admits⟩
  have asked := asked_create (commandOf_of_admits admits) session
  constructor
  case asks => simp [only, asked, eq_comm]
  case stores => exact fun other admits => CreateCommand.isStoredBy_of_fits admits.2
  case replies =>
    intro reply
    rcases session.next.concerns_or_fails with ⟨count, concerns⟩ | ⟨error, fails⟩
    · have succeeds : ∃ count, session.next.Concerns count := ⟨count, concerns⟩
      simp [only, (create_of_concerns admits concerns).1, Reply.created, succeeds, eq_comm]
    · simp [(create_of_fails admits fails).1, Answer.not_concerns_of_fails fails]
  case logs =>
    intro events
    rcases session.next.concerns_or_fails with ⟨count, concerns⟩ | ⟨error, fails⟩
    · rw [(create_of_concerns admits concerns).2]
      constructor
      · rintro rfl
        exact .inl ⟨command, count, admits, concerns, rfl⟩
      · rintro (⟨other, _, again, _, rfl⟩ | ⟨fruitless, _⟩)
        · rw [admits.eq again]
        · exact absurd concerns (fruitless command count admits)
    · simp [(create_of_fails admits fails).2, Answer.not_concerns_of_fails fails, eq_comm]
  case fails =>
    intro other error again fails
    exact (create_of_fails admits fails).1
  case unread =>
    intro failure unread
    rw [admits.1] at unread
    cases unread
  case refuses =>
    intro other key text read misfit
    obtain rfl := Except.ok.inj (read.symm.trans admits.1)
    exact absurd misfit (admits.2 key text)

end Creations

/-- A creation asks for one insertion exactly if the body of the request holds a command with which
nothing is wrong. It stores the office of the request, a trimmed identifier of 1 to 32 characters and
the description as it came, with at most 128 characters; 201 is replied and the creation is reported
exactly if that succeeds. If something is wrong with a command, the details of the failure say of each
of its fields what, independently of the others. -/
theorem creation_writes_what_fits (context : Context) (payload : Payload) (session : Session) :
    Creates context payload session (create context payload session) := by
  cases read : payload.json CreateCommand.shape.reader with
  | error failure =>
    refine creates_of_refused (fun command admits => ?_)
      (create_of_refused (commandOf_of_unread read)) (fun other again => ?_)
      fun command key text again => ?_
    · rw [Admits, read] at admits
      cases admits.1
    · exact Except.error.inj (again.symm.trans read)
    · rw [read] at again
      cases again
  | ok command =>
    by_cases fits : ∀ key text, ¬ command.Misfit context.office key text
    · exact creates_of_admits ⟨read, fits⟩
    · push Not at fits
      obtain ⟨key, text, misfit⟩ := fits
      obtain ⟨details, invalid, reports⟩ := CreateCommand.validate_of_misfit misfit
      refine creates_of_refused (fun other admits => ?_)
        (create_of_refused (commandOf_of_invalid read invalid)) (fun other again => ?_)
        fun other key text again _ => ?_
      · obtain rfl := Except.ok.inj (admits.1.symm.trans read)
        exact admits.2 key text misfit
      · rw [read] at again
        cases again
      · obtain rfl := Except.ok.inj (again.symm.trans read)
        exact ⟨details, rfl, reports⟩

/-- The office of a path may begin with white space. A command that names this very office is refused
for it, since white space is only taken from around what is given. -/
theorem padded_office_refused :
    let office := officeOfPath "/ hq-data"
    let command : CreateCommand := ⟨some office, "R", none⟩
    let payload : Payload := ⟨some "application/json",
      Text.Utf8.encode "\x7b\"id\":\"R\",\"office-id\":\" HQ\"\x7d"⟩
    let outcome := create ⟨office, none⟩ payload (.ofAnswers [.changed 1])
    office = " HQ" ∧ payload.json CreateCommand.shape.reader = .ok command ∧
      outcome.result = .error (.validation "Invalid location category"
        [("office-id", .text "must be  HQ")]) ∧
      outcome.store.asked = [] := by
  have named : officeOfPath "/ hq-data" = " HQ" := by decide +kernel
  have written : (Json.object (sortedMembers ⟨" HQ", "R", none⟩)).render =
      "\x7b\"id\":\"R\",\"office-id\":\" HQ\"\x7d" := by decide +kernel
  rw [named]
  intro office command payload outcome
  have read : payload.json CreateCommand.shape.reader = .ok command := by
    have whole := Json.whole_render_of_takes (takes_create ⟨office, "R", none⟩)
      (show CreateCommand.shape.finish _ = .ok command from rfl)
    have sent := json_of_whole whole
    rwa [written] at sent
  have differs : (Text.trim office).map Char.toLower ≠ office.map Char.toLower := by
    rw [ne_eq, ← String.toList_inj, String.toList_map, String.toList_map]
    decide +kernel
  have invalid : command.validate office = .error (.validation "Invalid location category"
      [("office-id", .text "must be  HQ")]) := by
    have faults : command.faults office = [("office-id", "must be  HQ")] := by
      have found : command.officeFault office = some ("must be " ++ office) := if_neg differs
      rw [CreateCommand.faults, found]
      decide +kernel
    rw [CreateCommand.validate, faults]
    rfl
  have refused : outcome = ⟨_, .ofAnswers [.changed 1], []⟩ :=
    create_of_refused (commandOf_of_invalid read invalid)
  rw [refused]
  exact ⟨rfl, read, rfl, rfl⟩

end Sluice.Category
