import Sluice.Proofs.Json.ObjectText
import Sluice.Resource.Dispatch

/-!
# Answers to failures

Every failure is answered in the same way: with one report, and with a body that is read back as an
object with a message. Which failures no row of the table claims is said here without the table, by
`Taxonomy.IsUnexpected`, and no two rows claim the same failure, so the order of the rows does not
matter. Everything that status, level and body have to agree on is a property of single rows.
-/

namespace Sluice.Resource

variable {σ : Type}

namespace Taxonomy

/-- Whether a failure is one that nobody expects: anything internal, and every fault of a database
other than a missing row and the violations that stand for conflicts. -/
def IsUnexpected : Failure → Prop
  | .internal _ _ => True
  | .database .rowNotFound => False
  | .database (.reported fault) =>
    fault.kind ≠ .uniqueViolation ∧ fault.kind ≠ .foreignKeyViolation
  | .database _ => True
  | _ => False

/-- The rows that claim a failure, in order. -/
def claimants (failure : Failure) : List Mapping :=
  table.filter (·.claims failure)

/-- At most one row claims a failure, and one does unless the failure is unexpected. -/
theorem claimants_cases (failure : Failure) :
    (IsUnexpected failure ∧ claimants failure = []) ∨
      (¬ IsUnexpected failure ∧ ∃ mapping, claimants failure = [mapping]) := by
  cases failure with
  | database error =>
    cases error with
    | reported fault =>
      obtain ⟨kind, message, constraint, relation, inspected⟩ := fault
      cases kind with
      | uniqueViolation | foreignKeyViolation => exact .inr ⟨by simp [IsUnexpected], _, rfl⟩
      | notNullViolation | checkViolation | other => exact .inl ⟨by simp [IsUnexpected], rfl⟩
    | rowNotFound => exact .inr ⟨id, _, rfl⟩
    | _ => exact .inl ⟨trivial, rfl⟩
  | internal _ _ => exact .inl ⟨trivial, rfl⟩
  | _ => exact .inr ⟨id, _, rfl⟩

/-- At most one row claims a failure. -/
theorem countP_claims_le_one (failure : Failure) : table.countP (·.claims failure) ≤ 1 := by
  rw [List.countP_eq_length_filter]
  change (claimants failure).length ≤ 1
  rcases claimants_cases failure with ⟨_, none⟩ | ⟨_, mapping, one⟩
  · simp [none]
  · simp [one]

/-- The row that claims a failure is the one that counts. -/
theorem find?_of_claims {failure : Failure} {mapping : Mapping} (member : mapping ∈ table)
    (claims : mapping.claims failure = true) : find? failure = some mapping := by
  have found : find? failure = (claimants failure).head? := (List.head?_filter ..).symm
  have claimant : mapping ∈ claimants failure := List.mem_filter.mpr ⟨member, claims⟩
  rcases claimants_cases failure with ⟨_, none⟩ | ⟨_, only, one⟩
  · simp [none] at claimant
  · rw [one, List.mem_singleton] at claimant
    rw [found, one, claimant]
    rfl

/-- No row claims a failure exactly if it is unexpected. -/
theorem find?_eq_none_iff (failure : Failure) : find? failure = none ↔ IsUnexpected failure := by
  have found : find? failure = (claimants failure).head? := (List.head?_filter ..).symm
  rcases claimants_cases failure with ⟨unexpected, none⟩ | ⟨expected, mapping, one⟩
  · simp [found, none, unexpected]
  · simp [found, one, expected]

/-- The same row claims a failure in whatever order the rows stand. -/
theorem find?_of_perm {rows : List Mapping} (perm : rows.Perm table) (failure : Failure) :
    rows.find? (·.claims failure) = find? failure := by
  have same : (rows.filter (·.claims failure)).Perm (claimants failure) := perm.filter _
  have found (rows : List Mapping) :
      rows.find? (·.claims failure) = (rows.filter (·.claims failure)).head? :=
    (List.head?_filter ..).symm
  rw [found, find?, found]
  change _ = (claimants failure).head?
  rcases claimants_cases failure with ⟨_, none⟩ | ⟨_, mapping, one⟩
  · rw [none] at same ⊢
    rw [List.perm_nil.mp same]
  · rw [one] at same ⊢
    rw [List.perm_singleton.mp same]

/-- A row is about a client at fault or about something that is missing in the server. -/
theorem status_of_mem {mapping : Mapping} (member : mapping ∈ table) :
    (mapping.severity = .client ∧ 400 ≤ mapping.status ∧ mapping.status < 500) ∨
      (mapping.severity = .server ∧ mapping.status = 501) := by
  have rows : ∀ mapping ∈ table,
      (mapping.severity = .client ∧ 400 ≤ mapping.status ∧ mapping.status < 500) ∨
        (mapping.severity = .server ∧ mapping.status = 501) := by decide
  exact rows mapping member

/-- A row explains a failure, so its body shows no incident. -/
theorem incident_body {mapping : Mapping} (member : mapping ∈ table) (failure : Failure) :
    (mapping.body failure).incident = none := by
  have badRequest : (badRequestBody failure).incident = none := by
    unfold badRequestBody
    split <;> try rfl
    split <;> rfl
  have deleteBlocked : (deleteBlockedBody failure).incident = none := by
    unfold deleteBlockedBody
    split <;> rfl
  have unauthenticated : (unauthenticatedBody failure).incident = none := by
    unfold unauthenticatedBody
    split <;> rfl
  simp only [table, List.mem_cons, List.not_mem_nil, or_false] at member
  rcases member with rfl | rfl | rfl | rfl | rfl | rfl | rfl | rfl | rfl
  · rfl
  · rfl
  · exact badRequest
  · exact unauthenticated
  · rfl
  · rfl
  · rfl
  · exact deleteBlocked
  · rfl

end Taxonomy

/-! ## The body -/

namespace Envelope

/-- The keys that the body of an error answer may have. -/
def keys : List String := ["message", "details", "fields", "incidentIdentifier"]

/-- The keys of a body by the parts that it has. -/
def shape (details fields incident : Bool) : List String :=
  ["message"] ++ (if details then ["details"] else []) ++ (if fields then ["fields"] else []) ++
    (if incident then ["incidentIdentifier"] else [])

theorem map_fst_members (envelope : Envelope) :
    envelope.members.map (·.1) =
      shape envelope.details.isSome envelope.fields envelope.incident.isSome := by
  obtain ⟨message, details, fields, incident⟩ := envelope
  cases details <;> cases fields <;> cases incident <;> rfl

/-- The keys of a body stand in the order of all keys, each at most once. -/
theorem sublist_keys (envelope : Envelope) : (envelope.members.map (·.1)).Sublist keys := by
  have shapes : ∀ details fields incident, (shape details fields incident).Sublist keys := by
    decide
  rw [map_fst_members]
  exact shapes _ _ _

/-- The text of a body is read back. -/
theorem textMembers?_render (envelope : Envelope) :
    Json.textMembers? (Text.Utf8.encode envelope.render) =
      .ok (envelope.members.map fun pair => (pair.1, pair.2.text?)) :=
  Json.textMembers?_renderInOrder (envelope.sublist_keys.nodup (by decide))

/-- The identifier of an incident is the text of its key, if there is one. -/
theorem lookup_incident (envelope : Envelope) :
    (envelope.members.map fun pair => (pair.1, pair.2.text?)).lookup "incidentIdentifier" =
      envelope.incident.map fun incident => some incident.text := by
  obtain ⟨message, details, fields, incident⟩ := envelope
  cases details <;> cases fields <;> cases incident <;> rfl

end Envelope

/-! ## The answer -/

namespace Ruling

/-- The ruling on a failure that a row claims. -/
theorem of_claimed {failure : Failure} {mapping : Mapping}
    (found : Taxonomy.find? failure = some mapping) (incident : Incident) :
    of incident failure =
      ⟨mapping.status, mapping.body failure, mapping.name, none, failedEvent mapping failure⟩ := by
  simp only [of, found]

/-- The ruling on a failure that no row claims. -/
theorem of_unclaimed {failure : Failure} (found : Taxonomy.find? failure = none)
    (incident : Incident) :
    of incident failure =
      ⟨500, .ofIncident incident, unhandled, some incident, unhandledEvent incident failure⟩ := by
  simp only [of, found]

/-- What status, report and body of a ruling have to agree on. -/
theorem of_cases (incident : Incident) (failure : Failure) :
    let ruling := of incident failure
    (ruling.status = 500 ∧ ruling.event.level = .error ∧
        ruling.event.message = "unhandled failure" ∧
        ruling.event.fields.lookup "incident" = some incident.text ∧
        ruling.envelope.incident = some incident) ∨
      (ruling.status = 501 ∧ ruling.event.level = .warn ∧ ruling.event.message = "request failed" ∧
        ruling.event.fields.lookup "incident" = none ∧ ruling.envelope.incident = none) ∨
      ((400 ≤ ruling.status ∧ ruling.status < 500) ∧ ruling.event.level = .debug ∧
        ruling.event.message = "request failed" ∧
        ruling.event.fields.lookup "incident" = none ∧ ruling.envelope.incident = none) := by
  intro ruling
  cases found : Taxonomy.find? failure with
  | none =>
    rw [show ruling = _ from of_unclaimed found incident]
    exact .inl ⟨rfl, rfl, rfl, rfl, rfl⟩
  | some mapping =>
    have member := List.mem_of_find?_eq_some found
    have shown := Taxonomy.incident_body member failure
    rw [show ruling = _ from of_claimed found incident]
    rcases Taxonomy.status_of_mem member with ⟨severity, range⟩ | ⟨severity, status⟩
    · exact .inr (.inr ⟨range, congrArg Severity.level severity, rfl, rfl, shown⟩)
    · exact .inr (.inl ⟨status, congrArg Severity.level severity, rfl, rfl, shown⟩)

end Ruling

/-- The header fields of every error answer. -/
def errorHeaders : Http.Headers :=
  [⟨"content-type", .ofText "application/json"⟩, ⟨"cache-control", .ofText "no-store"⟩]

/-- Rulings differ in their status and their body alone. -/
theorem Ruling.toResponse_eq (ruling : Ruling) :
    ruling.toResponse = ⟨ruling.status, errorHeaders, .plain ruling.envelope.render⟩ := by
  have fields : Http.Headers.setText [⟨"content-type", .ofText "application/json"⟩]
      "cache-control" "no-store" = errorHeaders := by decide +kernel
  simp only [Ruling.toResponse, Http.Response.json, fields]

/-- An event tells what a client is told with a status: level and wording go with the status, and the
incident is named exactly where the client is given nothing else. -/
structure Explains (event : Log.Event) (status : Nat) (incident : Incident) : Prop where
  client : event.level = .debug ∧ event.message = "request failed" ↔ 400 ≤ status ∧ status < 500
  gap : event.level = .warn ∧ event.message = "request failed" ↔ status = 501
  unhandled : event.level = .error ∧ event.message = "unhandled failure" ↔ status = 500
  incident : event.fields.lookup "incident" = if status = 500 then some incident.text else none

/-- The answer to a failure as every client is to get it: never kept, and with an object for its body
that has a message and no other keys than error answers have, in whatever coding. -/
structure IsFailureAnswer (response : Http.Response) : Prop where
  caching : response.headers.all "cache-control" = [.ofText "no-store"]
  contentType : response.headers.all "content-type" = [.ofText "application/json"]
  body : ∃ members message,
    Json.textMembers? (Text.Utf8.encode response.body.text) = .ok members ∧
      members.lookup "message" = some (some message) ∧ ∀ pair ∈ members, pair.1 ∈ Envelope.keys

/-- An exchange that is settled by a status, a body and one report. -/
structure Exchange.Tells (exchange : Exchange σ) (status : Nat) (envelope : Envelope)
    (event : Log.Event) : Prop where
  status : exchange.response.status = status
  body : exchange.response.body = .plain envelope.render
  events : exchange.events = [event]

/-- How the rows of the table stand to a failure. -/
structure Taxonomy.Decides (failure : Failure) : Prop where
  once : table.countP (·.claims failure) ≤ 1
  /-- The rows may stand in any order. -/
  orderless : ∀ rows : List Mapping, rows.Perm table →
    rows.find? (·.claims failure) = find? failure
  unclaimed : find? failure = none ↔ IsUnexpected failure

/-- An exchange that answers a failure as the table has it, and reports it once. -/
structure Exchange.Answers (failure : Failure) (incident : Incident) (span : Log.Fields)
    (before : Shared σ) (exchange : Exchange σ) : Prop where
  /-- The row that claims the failure gives status, body and report. -/
  claimed : ∀ mapping ∈ Taxonomy.table, mapping.claims failure = true →
    exchange.Tells mapping.status (mapping.body failure)
      ((Ruling.failedEvent mapping failure).within span)
  /-- Of a failure that no row claims, the client is told the incident and nothing else. -/
  unclaimed : (∀ mapping ∈ Taxonomy.table, mapping.claims failure = false) →
    exchange.Tells 500 (.ofIncident incident)
      ((Ruling.unhandledEvent incident failure).within span)
  status : (400 ≤ exchange.response.status ∧ exchange.response.status < 500) ∨
    exchange.response.status = 501 ∨ exchange.response.status = 500
  wellFormed : IsFailureAnswer exchange.response
  named : ∃ members,
    Json.textMembers? (Text.Utf8.encode exchange.response.body.text) = .ok members ∧
      members.lookup "incidentIdentifier" =
        if exchange.response.status = 500 then some (some incident.text) else none
  explained : ∃ event, exchange.events = [event] ∧
    Explains event exchange.response.status incident
  shared : exchange.shared = before

namespace Ruling

/-- A ruling is reported as it is answered, in whatever span that is. -/
theorem explains_event (incident : Incident) (failure : Failure) (span : Log.Fields) :
    Explains ((of incident failure).event.within span) (of incident failure).status incident := by
  have level : ((of incident failure).event.within span).level =
      (of incident failure).event.level := rfl
  have message : ((of incident failure).event.within span).message =
      (of incident failure).event.message := rfl
  have fields : ((of incident failure).event.within span).fields =
      (of incident failure).event.fields := rfl
  rcases of_cases incident failure with
    ⟨status, isLevel, isMessage, isField, _⟩ | ⟨status, isLevel, isMessage, isField, _⟩ |
    ⟨⟨least, bound⟩, isLevel, isMessage, isField, _⟩
  · constructor <;> simp [level, message, fields, isLevel, isMessage, isField, status]
  · constructor <;> simp [level, message, fields, isLevel, isMessage, isField, status]
  · constructor <;> simp [level, message, fields, isLevel, isMessage, isField, least, bound] <;>
      omega

/-- The body of a ruling names the incident exactly where the report does. -/
theorem incident_envelope (incident : Incident) (failure : Failure) :
    (of incident failure).envelope.incident =
      if (of incident failure).status = 500 then some incident else none := by
  rcases of_cases incident failure with ⟨status, _, _, _, shown⟩ | ⟨status, _, _, _, shown⟩ |
    ⟨⟨_, bound⟩, _, _, _, shown⟩
  · rw [shown, if_pos status]
  · rw [shown, if_neg (by omega)]
  · rw [shown, if_neg (by omega)]

end Ruling

/-- A ruling is answered as every client is to get it. -/
theorem Ruling.isFailureAnswer (ruling : Ruling) : IsFailureAnswer ruling.toResponse := by
  have never : errorHeaders.all "cache-control" = [.ofText "no-store"] := by decide
  have typed : errorHeaders.all "content-type" = [.ofText "application/json"] := by decide
  rw [Ruling.toResponse_eq]
  refine ⟨never, typed, _, ruling.envelope.message, Envelope.textMembers?_render _, rfl, ?_⟩
  intro pair member
  obtain ⟨held, isHeld, rfl⟩ := List.mem_map.mp member
  exact ruling.envelope.sublist_keys.subset (List.mem_map_of_mem isHeld)

/-- A failure is answered with the status, the body and the report of its ruling. -/
theorem Exchange.tells_failed (incident : Incident) (span : Log.Fields) (failure : Failure)
    (shared : Shared σ) {ruling : Ruling} (ruled : Ruling.of incident failure = ruling) :
    (failed incident span failure shared).Tells ruling.status ruling.envelope
      (ruling.event.within span) := by
  subst ruled
  have response : (failed incident span failure shared).response = _ := Ruling.toResponse_eq _
  exact ⟨congrArg Http.Response.status response, congrArg Http.Response.body response, rfl⟩

/-- A failure is answered as the table has it. -/
theorem Exchange.answers_failed (incident : Incident) (span : Log.Fields) (failure : Failure)
    (shared : Shared σ) :
    (failed incident span failure shared).Answers failure incident span shared := by
  obtain ⟨status, body, reported⟩ := tells_failed incident span failure shared rfl
  constructor
  case claimed =>
    intro mapping member claims
    have found := Taxonomy.find?_of_claims member claims
    exact tells_failed incident span failure shared (Ruling.of_claimed found incident)
  case unclaimed =>
    intro none
    have found : Taxonomy.find? failure = Option.none :=
      List.find?_eq_none.mpr fun mapping member => by simp [none mapping member]
    exact tells_failed incident span failure shared (Ruling.of_unclaimed found incident)
  case status =>
    rw [status]
    rcases Ruling.of_cases incident failure with ⟨isUnhandled, _⟩ | ⟨isGap, _⟩ | ⟨isClient, _⟩
    · exact .inr (.inr isUnhandled)
    · exact .inr (.inl isGap)
    · exact .inl isClient
  case wellFormed => exact Ruling.isFailureAnswer _
  case named =>
    rw [body, status]
    refine ⟨_, Envelope.textMembers?_render _, ?_⟩
    rw [Envelope.lookup_incident, Ruling.incident_envelope]
    split <;> rfl
  case explained =>
    rw [status]
    exact ⟨_, reported, Ruling.explains_event incident failure span⟩
  case shared => rfl

/-- Every failure becomes one well-formed answer. At most one row of the table claims it, so the rows
may stand in any order, and none does exactly if it is unexpected. Status, body and report are those of
the row, or else those of an incident; the failure is reported once, and the report agrees with what the
client is told. -/
theorem every_failure_answered (failure : Failure) (incident : Incident) (span : Log.Fields)
    (shared : Shared σ) :
    Taxonomy.Decides failure ∧
      (Exchange.failed incident span failure shared).Answers failure incident span shared :=
  ⟨⟨Taxonomy.countP_claims_le_one failure, fun _ perm => Taxonomy.find?_of_perm perm failure,
      Taxonomy.find?_eq_none_iff failure⟩,
    Exchange.answers_failed incident span failure shared⟩

end Sluice.Resource
