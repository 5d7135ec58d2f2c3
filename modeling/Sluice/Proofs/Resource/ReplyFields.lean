import Sluice.Proofs.Text.Parts
import Sluice.Resource.Reply

/-!
# Fields of replies

A reply starts with a status and perhaps a body, and then its fields are set by any number of calls. Of
each name the last call counts, in whatever letters the names are written
(`FieldCall.all_run_of_isLast`). The response has these fields and, for a body, its type unless a call
gave another (`Reply.all_toResponse_eq`). So a call for one name may change places with a call for
another.
-/

namespace Sluice.Resource

/-! ## The response to a reply -/

@[simp] theorem Reply.status_toResponse (reply : Reply) :
    reply.toResponse.status = reply.status := by
  unfold Reply.toResponse
  cases reply.body <;> rfl

/-- The body of the response is the text of that of the reply. -/
theorem Reply.body_toResponse (reply : Reply) :
    reply.toResponse.body = .plain ((reply.body.map Json.render).getD "") := by
  unfold Reply.toResponse
  cases reply.body <;> rfl

/-- What the response says of a name before the fields of the reply are laid over it. -/
def Reply.ownValues (reply : Reply) (name : String) : List Http.HeaderValue :=
  if name = "content-type" ∧ reply.body.isSome then [.ofText "application/json"] else []

/-- The response has the fields of the reply, and besides them the type of its body. -/
theorem Reply.all_toResponse_eq (reply : Reply) (name : String) :
    reply.toResponse.headers.all name =
      if reply.headers.all name = [] then reply.ownValues name else reply.headers.all name := by
  have overlaid (base : Http.Headers) (own : base.all name = reply.ownValues name) :
      (base.overlay reply.headers).all name =
        if reply.headers.all name = [] then reply.ownValues name else reply.headers.all name := by
    rw [Http.Headers.all_overlay, own]
    by_cases bare : reply.headers.all name = []
    · rw [(Http.Headers.has_eq_false_iff ..).mpr bare, if_neg Bool.false_ne_true, if_pos bare, bare,
        List.append_nil]
    · have set : reply.headers.has name = true := by
        rw [← Bool.not_eq_false, Http.Headers.has_eq_false_iff]
        exact bare
      rw [if_pos set, if_neg bare, List.nil_append]
  unfold Reply.toResponse
  cases held : reply.body with
  | none =>
    refine overlaid _ ?_
    simp [ownValues, held, Http.Response.empty, Http.Headers.all]
  | some body =>
    refine overlaid _ ?_
    by_cases typed : name = "content-type"
    · simp [ownValues, held, typed, Http.Response.json, Http.Headers.all]
    · simp [ownValues, held, typed, Ne.symm typed, Http.Response.json, Http.Headers.all]

/-- A field that the reply sets, or that is not the type of the body, is that of the reply. -/
theorem Reply.all_toResponse_of_kept (reply : Reply) {name : String}
    (kept : reply.headers.has name = true ∨ "content-type" ≠ name) :
    reply.toResponse.headers.all name = reply.headers.all name := by
  rw [all_toResponse_eq]
  split
  · next bare =>
    have unset : reply.headers.has name ≠ true := by
      rw [(Http.Headers.has_eq_false_iff ..).mpr bare]
      exact Bool.false_ne_true
    have other : "content-type" ≠ name := kept.resolve_left unset
    rw [ownValues, if_neg fun typed => other typed.1.symm, bare]
  · rfl

/-! ## How replies are made -/

namespace Reply

/-- How a reply starts. -/
inductive Opening where
  | ok (body : Draft)
  | json (status : Nat) (body : Draft)
  | created
  | noContent
  | empty (status : Nat)

namespace Opening

/-- The reply that starts so, unless its body cannot be written. -/
def reply? : Opening → Except Failure Reply
  | .ok body => Reply.ok body
  | .json status body => Reply.json status body
  | .created => .ok Reply.created
  | .noContent => .ok Reply.noContent
  | .empty status => .ok (Reply.empty status)

/-- The status and the body that a reply starts with. -/
inductive Starts : Opening → Nat → Option Json → Prop where
  | ok {body : Draft} {value : Json} (written : body.toJson = .ok value) :
      Starts (.ok body) 200 (some value)
  | json {status : Nat} {body : Draft} {value : Json} (written : body.toJson = .ok value) :
      Starts (.json status body) status (some value)
  | created : Starts .created 201 none
  | noContent : Starts .noContent 204 none
  | empty {status : Nat} : Starts (.empty status) status none

theorem json_eq_ok_iff {status : Nat} {body : Draft} {start : Reply} :
    Reply.json status body = .ok start ↔
      ∃ value, body.toJson = .ok value ∧ start = ofJson status value := by
  unfold Reply.json
  cases body.toJson with
  | error text => simp
  | ok value => simp [eq_comm]

/-- A reply starts with what its opening tells, and without any fields. -/
theorem reply?_eq_ok_iff {opening : Opening} {start : Reply} :
    opening.reply? = .ok start ↔
      ∃ status held, opening.Starts status held ∧ start = ⟨status, [], held⟩ := by
  constructor
  · intro starts
    cases opening with
    | ok body =>
      obtain ⟨value, written, rfl⟩ := json_eq_ok_iff.mp starts
      exact ⟨_, _, .ok written, rfl⟩
    | json status body =>
      obtain ⟨value, written, rfl⟩ := json_eq_ok_iff.mp starts
      exact ⟨_, _, .json written, rfl⟩
    | created => exact ⟨_, _, .created, (Except.ok.inj starts).symm⟩
    | noContent => exact ⟨_, _, .noContent, (Except.ok.inj starts).symm⟩
    | empty status => exact ⟨_, _, .empty, (Except.ok.inj starts).symm⟩
  · rintro ⟨status, held, starts, rfl⟩
    cases starts with
    | ok written => exact json_eq_ok_iff.mpr ⟨_, written, rfl⟩
    | json written => exact json_eq_ok_iff.mpr ⟨_, written, rfl⟩
    | created => rfl
    | noContent => rfl
    | empty => rfl

end Opening

/-- A call that sets a field of a reply: any field, by a name in any letter case, or the one about
caching, by a text that can be shown. -/
inductive FieldCall where
  | header (written : String) (value : Http.HeaderValue) (field : Http.Header)
      (made : Http.Header.make? written value = some field)
  | caching (text : String) (shown : (Http.HeaderValue.ofText text).all Http.isVisibleByte = true)

namespace FieldCall

/-- The name of the field as it is written. -/
def name : FieldCall → String
  | .header written _ _ _ => written
  | .caching _ _ => "cache-control"

/-- The value that the field is set to. -/
def value : FieldCall → Http.HeaderValue
  | .header _ value _ _ => value
  | .caching text _ => .ofText text

/-- The reply with the field set. -/
def on (call : FieldCall) (reply : Reply) : Reply :=
  match call with
  | .header _ _ field _ => reply.withHeader field.name field.value
  | .caching text _ => reply.cacheControl text

/-- The reply after calls one after another. -/
def run (calls : List FieldCall) (reply : Reply) : Reply :=
  calls.foldl (fun reply call => call.on reply) reply

/-- A call is for a name, whatever the letter case of either. -/
def IsFor (call : FieldCall) (name : String) : Prop :=
  call.name.map Char.toLower = name.map Char.toLower

instance (call : FieldCall) (name : String) : Decidable (call.IsFor name) :=
  inferInstanceAs (Decidable (call.name.map Char.toLower = name.map Char.toLower))

/-- A call for a name behind which there is no other call for it. -/
def IsLast (calls : List FieldCall) (name : String) (call : FieldCall) : Prop :=
  ∃ earlier later, calls = earlier ++ call :: later ∧ call.IsFor name ∧
    ∀ other ∈ later, ¬ other.IsFor name

variable {calls others : List FieldCall} {name : String}

/-- The small form of a name is its own small form. -/
theorem map_toLower_map_toLower (name : String) :
    (name.map Char.toLower).map Char.toLower = name.map Char.toLower := by
  rw [← String.toList_inj, String.toList_map, String.toList_map, Text.map_toLower_map_toLower]

/-- A call sets the field under the small form of its name. -/
theorem headers_on (call : FieldCall) (reply : Reply) :
    (call.on reply).headers = reply.headers.set (call.name.map Char.toLower) call.value := by
  cases call with
  | header written value field made =>
    unfold Http.Header.make? at made
    split at made
    · obtain rfl := Option.some.inj made
      rfl
    · cases made
  | caching text shown =>
    have small : "cache-control".map Char.toLower = "cache-control" := by
      rw [← String.toList_inj, String.toList_map]
      decide
    rw [name, small]
    rfl

/-- A call leaves all other fields as they are. -/
theorem all_on (call : FieldCall) (reply : Reply) (name : String) :
    (call.on reply).headers.all name =
      if call.name.map Char.toLower = name then [call.value] else reply.headers.all name := by
  rw [headers_on, Http.Headers.all_set]

/-- Calls change neither the status nor the body. -/
theorem parts_run (calls : List FieldCall) (reply : Reply) :
    (run calls reply).status = reply.status ∧ (run calls reply).body = reply.body := by
  induction calls generalizing reply with
  | nil => exact ⟨rfl, rfl⟩
  | cons call later ih =>
    obtain ⟨status, body⟩ := ih (call.on reply)
    have kept : (call.on reply).status = reply.status ∧ (call.on reply).body = reply.body := by
      cases call <;> exact ⟨rfl, rfl⟩
    exact ⟨status.trans kept.1, body.trans kept.2⟩

/-- A name for which there is no call keeps its values. -/
theorem all_run_of_unset (unset : ∀ call ∈ calls, ¬ call.IsFor name) (reply : Reply) :
    (run calls reply).headers.all (name.map Char.toLower) =
      reply.headers.all (name.map Char.toLower) := by
  induction calls generalizing reply with
  | nil => rfl
  | cons call later ih =>
    obtain ⟨other, rest⟩ := List.forall_mem_cons.mp unset
    change (run later (call.on reply)).headers.all _ = _
    rw [ih rest, all_on]
    exact if_neg other

/-- Of a name the last call counts, whatever stood there before. -/
theorem all_run_of_isLast {call : FieldCall} (last : IsLast calls name call) (reply : Reply) :
    (run calls reply).headers.all (name.map Char.toLower) = [call.value] := by
  obtain ⟨earlier, later, rfl, isFor, unset⟩ := last
  have split : run (earlier ++ call :: later) reply = run later (call.on (run earlier reply)) := by
    rw [run, List.foldl_append, List.foldl_cons]
    rfl
  rw [split, all_run_of_unset unset, all_on]
  exact if_pos isFor

/-- The last call for a name is the last of the calls for that name. -/
theorem isLast_iff {call : FieldCall} :
    IsLast calls name call ↔ (calls.filter (·.IsFor name)).getLast? = some call := by
  rw [List.getLast?_eq_some_iff]
  constructor
  · rintro ⟨earlier, later, rfl, isFor, unset⟩
    have none : later.filter (·.IsFor name) = [] := by simpa using unset
    refine ⟨earlier.filter (·.IsFor name), ?_⟩
    rw [List.filter_append, List.filter_cons_of_pos (by simpa using isFor), none]
  · rintro ⟨before, shape⟩
    obtain ⟨earlier, rest, rfl, _, found⟩ := List.filter_eq_append_iff.mp shape
    obtain ⟨between, later, rfl, _, isFor, none⟩ := List.filter_eq_cons_iff.mp found
    refine ⟨earlier ++ between, later, by rw [List.append_assoc], by simpa using isFor, ?_⟩
    simpa using none

/-- No field is set under a name with capitals. -/
theorem all_run_of_capital (capital : name.map Char.toLower ≠ name) (calls : List FieldCall)
    (reply : Reply) : (run calls reply).headers.all name = reply.headers.all name := by
  induction calls generalizing reply with
  | nil => rfl
  | cons call later ih =>
    have other : call.name.map Char.toLower ≠ name := by
      rintro rfl
      exact capital (map_toLower_map_toLower call.name)
    change (run later (call.on reply)).headers.all name = _
    rw [ih, all_on, if_neg other]

/-- Calls of which those for any one name are the same, in the same order, set the same fields. -/
theorem all_run_of_filter_eq
    (same : ∀ name, calls.filter (·.IsFor name) = others.filter (·.IsFor name)) (reply : Reply)
    (name : String) : (run calls reply).headers.all name = (run others reply).headers.all name := by
  by_cases small : name.map Char.toLower = name
  · rw [← small]
    cases last : (calls.filter (·.IsFor name)).getLast? with
    | none =>
      have unset : calls.filter (·.IsFor name) = [] := List.getLast?_eq_none_iff.mp last
      rw [all_run_of_unset (by simpa using unset) reply,
        all_run_of_unset (by simpa using (same name).symm.trans unset) reply]
    | some call =>
      rw [all_run_of_isLast (isLast_iff.mpr last) reply,
        all_run_of_isLast (isLast_iff.mpr (same name ▸ last)) reply]
  · rw [all_run_of_capital small, all_run_of_capital small]

end FieldCall

open FieldCall (run IsLast)

/-- Every reply, however it starts and whatever calls follow, is answered with its status and the text
of its body. Each name has exactly one value if there was a call for it, that of the last one; a name
for which there was none has the type of the body if it is the name of that, and no value otherwise. The
order of calls for different names does not matter. -/
theorem fields_reach_response {opening : Opening} {start : Reply}
    (starts : opening.reply? = .ok start) (calls : List FieldCall) :
    let reply := run calls start
    let response := reply.toResponse
    ∃ status held, opening.Starts status held ∧
      reply.status = status ∧ response.status = status ∧
      response.body = .plain ((held.map Json.render).getD "") ∧
      (∀ name call, IsLast calls name call →
        response.headers.all (name.map Char.toLower) = [call.value]) ∧
      (∀ name, (∀ call ∈ calls, ¬ call.IsFor name) →
        response.headers.all (name.map Char.toLower) =
          if name.map Char.toLower = "content-type" ∧ held.isSome then [.ofText "application/json"]
          else []) ∧
      ∀ others : List FieldCall,
        (∀ name, calls.filter (·.IsFor name) = others.filter (·.IsFor name)) →
          let other := (run others start).toResponse
          other.status = response.status ∧ other.body = response.body ∧
            ∀ name, other.headers.all name = response.headers.all name := by
  intro reply response
  obtain ⟨status, held, opens, rfl⟩ := Opening.reply?_eq_ok_iff.mp starts
  have parts := FieldCall.parts_run calls ⟨status, [], held⟩
  refine ⟨status, held, opens, parts.1, ?status, ?body, ?last, ?unset, ?order⟩
  case status => rw [status_toResponse, parts.1]
  case body => rw [body_toResponse, parts.2]
  case last =>
    intro name call last
    have set := FieldCall.all_run_of_isLast last ⟨status, [], held⟩
    rw [all_toResponse_eq, set, if_neg (List.cons_ne_nil _ _)]
  case unset =>
    intro name unset
    have bare : reply.headers.all (name.map Char.toLower) = [] :=
      FieldCall.all_run_of_unset unset _
    rw [all_toResponse_eq, if_pos bare, ownValues, parts.2]
  case order =>
    intro others same other
    have parts' := FieldCall.parts_run others ⟨status, [], held⟩
    refine ⟨?_, ?_, fun name => ?_⟩
    · rw [status_toResponse, status_toResponse, parts'.1, parts.1]
    · rw [body_toResponse, body_toResponse, parts'.2, parts.2]
    · have fields := FieldCall.all_run_of_filter_eq same ⟨status, [], held⟩ name
      rw [all_toResponse_eq, all_toResponse_eq, ownValues, ownValues, parts'.2, parts.2, fields]

/-- A reply for which one field is set twice, in different letters, with one about caching between the
two calls or in front of them. -/
theorem recased_field_reaches_response :
    ∃ traced cached retraced : FieldCall,
      traced.name = "X-Trace" ∧ retraced.name = "x-trace" ∧ cached.name = "cache-control" ∧
      ∃ start, (Opening.json 202 (.list [.null])).reply? = .ok start ∧
        let response := (run [traced, cached, retraced] start).toResponse
        let other := (run [cached, traced, retraced] start).toResponse
        response.status = 202 ∧ response.body = .plain "[null]" ∧
        response.headers.all "x-trace" = [[0x32]] ∧
        response.headers.all "content-type" = [.ofText "application/json"] ∧
        other.headers.all "x-trace" = [[0x32]] ∧
        other.headers.all "cache-control" = response.headers.all "cache-control" := by
  have small : "X-Trace".map Char.toLower = "x-trace" ∧ "x-trace".map Char.toLower = "x-trace" ∧
      "cache-control".map Char.toLower = "cache-control" ∧
      "content-type".map Char.toLower = "content-type" := by
    simp only [← String.toList_inj, String.toList_map]
    decide
  obtain ⟨trace, retrace, cache, type⟩ := small
  let traced : FieldCall := .header "X-Trace" [0x31] ⟨"x-trace", [0x31]⟩ (by
    rw [Http.Header.make?, if_pos (by decide), trace])
  let retraced : FieldCall := .header "x-trace" [0x32] ⟨"x-trace", [0x32]⟩ (by
    rw [Http.Header.make?, if_pos (by decide), retrace])
  let cached : FieldCall := .caching "no-store" (by decide)
  have starts : (Opening.json 202 (.list [.null])).reply? = .ok (ofJson 202 (.list [.null])) := rfl
  refine ⟨traced, cached, retraced, rfl, rfl, rfl, _, starts, ?_⟩
  intro response other
  obtain ⟨status, held, opens, _, isStatus, isBody, last, unset, order⟩ :=
    fields_reach_response starts [traced, cached, retraced]
  cases opens with
  | json written =>
  cases written
  have isTrace : response.headers.all "x-trace" = [[0x32]] := by
    have isLast : IsLast [traced, cached, retraced] "x-trace" retraced :=
      ⟨[traced, cached], [], rfl, rfl, by simp⟩
    have set := last "x-trace" retraced isLast
    rwa [retrace] at set
  have isType : response.headers.all "content-type" = [.ofText "application/json"] := by
    have none : ∀ call ∈ [traced, cached, retraced], ¬ call.IsFor "content-type" := by
      simp [FieldCall.IsFor, traced, cached, retraced, FieldCall.name, trace, retrace, cache, type]
    have own := unset "content-type" none
    rwa [type, if_pos ⟨rfl, rfl⟩] at own
  -- The two calls that change places are for different names.
  have same : ∀ name, [traced, cached, retraced].filter (·.IsFor name) =
      [cached, traced, retraced].filter (·.IsFor name) := by
    intro name
    by_cases isCache : cached.IsFor name
    · have other : ¬ traced.IsFor name := by
        intro isTrace
        have both : "x-trace" = "cache-control" := by
          rw [← trace, ← cache]
          exact isTrace.trans isCache.symm
        exact absurd both (by decide)
      simp [List.filter_cons, isCache, other]
    · simp [List.filter_cons, isCache]
  obtain ⟨_, _, alike⟩ := order [cached, traced, retraced] same
  exact ⟨isStatus, isBody, isTrace, isType, (alike "x-trace").trans isTrace, alike "cache-control"⟩

end Reply

end Sluice.Resource
