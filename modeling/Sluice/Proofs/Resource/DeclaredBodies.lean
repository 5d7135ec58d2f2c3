import Sluice.Proofs.Resource.Stages
import Sluice.Proofs.Text.Parts

/-!
# Declared bodies

The body of a request is refused if it is declared to be anything but JSON. What is declared is a media
type, `Declares`, and whether that is JSON does not depend on its letter case, `IsJson`. Two kinds of
values are misjudged, `Misjudged`: one that cannot be read counts as none at all, and a type that is
built on JSON but says so in capitals is taken for something else. Every other value is judged right
(`declared_bodies`).
-/

namespace Sluice.Resource

open Http (HeaderValue)

/-! ## What is declared -/

/-- A text declares a media type: what stands in front of the first semicolon, without the white space
around it. -/
def Declares (text : String) (media : List Char) : Prop :=
  ∃ front, ';' ∉ front ∧ media = Text.trimChars front ∧
    (text.toList = front ∨ ∃ parameters, text.toList = front ++ ';' :: parameters)

/-- A media type is JSON or built on it, whatever its letter case. -/
def IsJson (media : List Char) : Prop :=
  media.map Char.toLower = "application/json".toList ∨
    "+json".toList <:+ media.map Char.toLower

/-- A media type is built on JSON, but says so with capitals. -/
def IsShouted (media : List Char) : Prop :=
  media.map Char.toLower ≠ "application/json".toList ∧
    "+json".toList <:+ media.map Char.toLower ∧ ¬ "+json".toList <:+ media

/-- A value does not declare JSON: it cannot be read, or it declares something else. -/
def IsForeign (value : HeaderValue) : Prop :=
  ∀ text media, value.text? = some text → Declares text media → ¬ IsJson media

/-- The values that are misjudged. -/
inductive Misjudged (value : HeaderValue) : Prop where
  | unreadable (unread : value.text? = none)
  | shouted {text : String} {media : List Char} (read : value.text? = some text)
      (declares : Declares text media) (shouted : IsShouted media)

/-- Two values that can be read differ in the letter case of ASCII letters at most. -/
def Recased (value other : HeaderValue) : Prop :=
  ∃ text again, value.text? = some text ∧ other.text? = some again ∧
    text.toList.map Char.toLower = again.toList.map Char.toLower

theorem toList_essence (text : String) :
    (Payload.essence text).toList = Text.trimChars (Text.cutChars ';' text.toList).1 := by
  simp only [Payload.essence, Text.cut, Text.trim, String.toList_ofList]

/-- A text declares one media type, the one that is looked at. -/
theorem declares_iff {text : String} {media : List Char} :
    Declares text media ↔ (Payload.essence text).toList = media := by
  rw [toList_essence]
  constructor
  · rintro ⟨front, absent, rfl, whole | ⟨parameters, whole⟩⟩
    · rw [whole, Text.cutChars_of_not_mem absent]
    · rw [whole, Text.cutChars_append_cons absent]
  · rintro rfl
    by_cases member : ';' ∈ text.toList
    · obtain ⟨front, parameters, whole, absent⟩ := List.eq_append_cons_of_mem member
      exact ⟨front, absent, by rw [whole, Text.cutChars_append_cons absent],
        .inr ⟨parameters, whole⟩⟩
    · exact ⟨text.toList, member, by rw [Text.cutChars_of_not_mem member], .inl rfl⟩

/-- Texts that differ in letter case declare media types that do. -/
theorem map_toLower_of_declares {text again : String} {media other : List Char}
    (declares : Declares text media) (redeclares : Declares again other)
    (same : text.toList.map Char.toLower = again.toList.map Char.toLower) :
    media.map Char.toLower = other.map Char.toLower := by
  have lowered (cs : List Char) : (Text.trimChars (Text.cutChars ';' cs).1).map Char.toLower =
      Text.trimChars (Text.cutChars ';' (cs.map Char.toLower)).1 := by
    have kept : (fun c => decide (c ≠ ';')) ∘ Char.toLower = fun c => decide (c ≠ ';') :=
      funext fun c => decide_eq_decide.mpr (not_congr (Text.toLower_eq_iff (by decide)))
    rw [← Text.trimChars_map_toLower]
    simp only [Text.cutChars, List.takeWhile_map, kept]
  rw [← declares_iff.mp declares, ← declares_iff.mp redeclares, toList_essence, toList_essence,
    lowered, lowered, same]

/-- Letter case does not make a value foreign. -/
theorem IsForeign.of_recased {value other : HeaderValue} (foreign : IsForeign value)
    (recased : Recased value other) : IsForeign other := by
  obtain ⟨text, again, read, reread, same⟩ := recased
  intro shown media isShown declares
  obtain rfl := Option.some.inj (isShown.symm.trans reread)
  have refused := foreign text _ read (declares_iff.mpr rfl)
  rwa [IsJson, map_toLower_of_declares (declares_iff.mpr rfl) declares same] at refused

theorem Recased.symm {value other : HeaderValue} (recased : Recased value other) :
    Recased other value := by
  obtain ⟨text, again, read, reread, same⟩ := recased
  exact ⟨again, text, reread, read, same.symm⟩

section Read

variable {value : HeaderValue} {text : String}

/-- A value that can be read is foreign if the media type that it declares is not JSON. -/
theorem isForeign_iff (read : value.text? = some text) :
    IsForeign value ↔ ¬ IsJson (Payload.essence text).toList := by
  constructor
  · exact fun foreign => foreign text _ read (declares_iff.mpr rfl)
  · intro other shown media isShown redeclares
    obtain rfl := Option.some.inj (isShown.symm.trans read)
    rwa [← declares_iff.mp redeclares]

/-- A value that can be read is misjudged if the media type that it declares shouts. -/
theorem misjudged_iff (read : value.text? = some text) :
    Misjudged value ↔ IsShouted (Payload.essence text).toList := by
  constructor
  · rintro (unread | ⟨isShown, redeclares, shouted⟩)
    · rw [read] at unread
      cases unread
    · obtain rfl := Option.some.inj (isShown.symm.trans read)
      rwa [declares_iff.mp redeclares]
  · exact fun shouted => .shouted read (declares_iff.mpr rfl) shouted

/-- A value that cannot be read declares nothing that is JSON. -/
theorem isForeign_of_unread (unread : value.text? = none) : IsForeign value := by
  intro text media isShown
  rw [unread] at isShown
  cases isShown

end Read

/-! ## What is refused -/

/-- A body is refused for its media type. -/
def Unsupported {α : Type} (result : Except Failure α) : Prop :=
  ∃ text, result = .error (Payload.refused ("unsupported content type '" ++ text ++ "'"))

namespace Payload

variable {α : Type} {reader : Json.Reader α} {body : List UInt8} {text : String}

/-- What counts as JSON is JSON that does not shout. -/
theorem declaresJson_iff (text : String) :
    declaresJson text = true ↔ IsJson (essence text).toList ∧ ¬ IsShouted (essence text).toList := by
  rw [declaresJson, Bool.or_eq_true, beq_iff_eq, List.isSuffixOf_iff_suffix, ← String.toList_inj,
    String.toList_map]
  generalize (essence text).toList = media
  have quiet : "+json".toList <:+ media → "+json".toList <:+ media.map Char.toLower := fun suffix =>
    suffix.map Char.toLower
  rw [IsJson, IsShouted]
  tauto

/-- A body that is refused for its type is refused for nothing else. -/
theorem not_unsupported_undeclared (body : List UInt8) (reader : Json.Reader α) :
    ¬ Unsupported ((⟨none, body⟩ : Payload).json reader) := by
  rintro ⟨text, refused⟩
  change (if body.isEmpty then _ else _) = _ at refused
  split at refused
  · have same := congrArg String.toList (Failure.badBody.inj (Except.error.inj refused)).1
    rw [String.toList_append, String.toList_append] at same
    exact absurd (congrArg List.head? same) (by simp)
  · cases read : Json.Reader.whole reader body with
    | ok value =>
      rw [read] at refused
      cases refused
    | error refusal =>
      rw [read] at refused
      cases (Failure.badBody.inj (Except.error.inj refused)).2

/-- A type that does not count as JSON is named in the refusal. -/
theorem json_of_foreign (foreign : declaresJson text = false) :
    (⟨some text, body⟩ : Payload).json reader =
      .error (refused ("unsupported content type '" ++ text ++ "'")) := by
  simp only [json, Option.filter_some, foreign, Bool.not_false, if_true]

/-- A type that counts as JSON makes no difference. -/
theorem json_of_declaresJson (declared : declaresJson text = true) :
    (⟨some text, body⟩ : Payload).json reader = (⟨none, body⟩ : Payload).json reader := by
  simp only [json, Option.filter_some, declared, Bool.not_true, Bool.false_eq_true, if_false,
    Option.filter_none]

end Payload

/-- What becomes of a body whose media type a value declares, next to what becomes of the same body
without a declaration. -/
structure JudgedBy {α : Type} (value : HeaderValue) (result undeclared : Except Failure α) :
    Prop where
  /-- Exactly the foreign values are refused, but for those that are misjudged. -/
  right : (Unsupported result ↔ IsForeign value) ↔ ¬ Misjudged value
  /-- A value that is not refused makes no difference. -/
  kept : ¬ Unsupported result → result = undeclared
  /-- A value that cannot be read is not refused. -/
  unread : value.text? = none → result = undeclared
  /-- The refusal shows the value. -/
  named : ∀ text, value.text? = some text → Unsupported result →
    result = .error (Payload.refused ("unsupported content type '" ++ text ++ "'"))

/-- A value that cannot be read is misjudged. -/
theorem judgedBy_of_unread {α : Type} {value : HeaderValue} (unread : value.text? = none)
    {undeclared : Except Failure α} (accepted : ¬ Unsupported undeclared) :
    JudgedBy value undeclared undeclared := by
  have foreign := isForeign_of_unread unread
  constructor
  case right =>
    exact iff_of_false (fun same => accepted (same.mpr foreign)) fun well => well (.unreadable unread)
  case kept => exact fun _ => rfl
  case unread => exact fun _ => rfl
  case named => exact fun _ _ refused => absurd refused accepted

/-- Every value is judged so. -/
theorem judgedBy_json {α : Type} (value : HeaderValue) (body : List UInt8) (reader : Json.Reader α) :
    JudgedBy value ((⟨value.text?, body⟩ : Payload).json reader)
      ((⟨none, body⟩ : Payload).json reader) := by
  have accepted := Payload.not_unsupported_undeclared body reader
  cases read : value.text? with
  | none => exact judgedBy_of_unread read accepted
  | some text =>
    have counts := Payload.declaresJson_iff text
    have shouted_json : IsShouted (Payload.essence text).toList →
        IsJson (Payload.essence text).toList := fun shouted => .inr shouted.2.1
    have readable : value.text? ≠ none := by simp [read]
    cases judged : Payload.declaresJson text with
    | true =>
      obtain ⟨json, quiet⟩ := counts.mp judged
      rw [Payload.json_of_declaresJson judged]
      constructor
      case right =>
        rw [isForeign_iff read, misjudged_iff read]
        exact iff_of_true (iff_of_false accepted (not_not_intro json)) quiet
      case kept => exact fun _ => rfl
      case unread => exact fun _ => rfl
      case named => exact fun _ _ refused => absurd refused accepted
    | false =>
      rw [judged] at counts
      rw [Payload.json_of_foreign judged]
      have refused : Unsupported (.error (Payload.refused
          ("unsupported content type '" ++ text ++ "'")) : Except Failure α) := ⟨text, rfl⟩
      constructor
      case right =>
        -- What does not count as JSON is none, or it is and shouts.
        rw [isForeign_iff read, misjudged_iff read]
        tauto
      case kept => exact fun accepted => absurd refused accepted
      case unread => exact fun unread => absurd unread readable
      case named =>
        intro again isShown _
        rw [Option.some.inj (isShown.symm.trans read)]

/-! ## Requests -/

/-- The body among the inputs of a call. -/
def Inputs.payload? : Inputs → Option Payload
  | .payload body => some body
  | .itemPayload _ body => some body
  | .item _ | .filters _ => none

/-- The body of a request counts as declared by the first value of its content type. -/
theorem Request.carried_of_first? {request : Request} {value : HeaderValue}
    (declared : request.headers.first? "content-type" = some value) :
    request.carried = ⟨value.text?, request.body⟩ := by
  rw [Request.carried, declared, Option.bind_some]

theorem Request.carried_of_undeclared {request : Request}
    (undeclared : request.headers.first? "content-type" = none) :
    request.carried = ⟨none, request.body⟩ := by
  rw [Request.carried, undeclared, Option.bind_none]

variable {σ : Type}

/-- A creation or an update that reaches its operation hands it the body with what is declared of it. A
body without a declaration is never refused for its type. A declared one is refused exactly if the
first value of the content type does not declare JSON in any letter case, unless that value is
misjudged; then it is refused exactly if it does. A value that cannot be read is misjudged and never
refused. Other values are judged without regard to letter case, and a body that is not refused is read
as if nothing had been declared. -/
theorem declared_bodies (engine : Engine σ) (binding : Binding σ) (identifier : Option String)
    (request : Request) (incident : Incident) (shared : Shared σ)
    (takes : binding.invocation.takesPayload = true)
    (reached : Stage.firstFault? engine binding identifier request shared.store = none) :
    (∃ call,
      (dispatch engine.recording binding.noted identifier request incident
        (shared.withRecord [])).shared.store.2 = [call] ∧
      call.inputs.payload? = some request.carried) ∧
    ∀ {α : Type} (reader : Json.Reader α),
      let result := request.carried.json reader
      let undeclared := (⟨none, request.body⟩ : Payload).json reader
      ¬ Unsupported undeclared ∧
      (request.headers.first? "content-type" = none → result = undeclared) ∧
      ∀ value, request.headers.first? "content-type" = some value →
        JudgedBy value result undeclared ∧
        ∀ other : Request, ∀ again, other.headers.first? "content-type" = some again →
          Recased value again → ¬ Misjudged value → ¬ Misjudged again →
          (Unsupported result ↔ Unsupported (other.carried.json reader)) := by
  constructor
  · have calls := calls_dispatch_noted engine binding identifier request incident shared []
    rw [reached] at calls
    refine ⟨_, calls, ?_⟩
    cases shape : binding.invocation with
    | payload run | itemPayload run => rfl
    | item run | filters run =>
      rw [shape] at takes
      cases takes
  · intro α reader result undeclared
    refine ⟨Payload.not_unsupported_undeclared request.body reader, fun none => ?_,
      fun value declared => ?_⟩
    · simp only [result, undeclared, Request.carried_of_undeclared none]
    · have judged := judgedBy_json value request.body reader
      simp only [result, undeclared, Request.carried_of_first? declared]
      refine ⟨judged, fun other again redeclared recased well rewell => ?_⟩
      have rejudged := judgedBy_json again other.body reader
      rw [Request.carried_of_first? redeclared, judged.right.mpr well, rejudged.right.mpr rewell]
      exact ⟨fun foreign => foreign.of_recased recased,
        fun foreign => foreign.of_recased recased.symm⟩

/-- A creation with a text as its body. -/
def textCreation (value : HeaderValue) : Request :=
  ⟨.post, ⟨"/a".toList, none⟩, [⟨"content-type", value⟩], Text.Utf8.encode "\"x\"",
    some ⟨"q0hec", ["W"]⟩⟩

/-- Letter case and parameters do not matter to the plain type. -/
theorem plain_type_judged :
    let engine : Engine Unit := ⟨.checkedByLease fun _ => .ok (), .derived, "/spk-data"⟩
    let binding : Binding Unit :=
      ⟨.post, "/a", .create, .payload fun _ _ => .pure (.ok .created), true,
        ⟨"/a/\x7bx\x7d", "/a", "\x7bx\x7d", "x"⟩, .writtenBy ["W"]⟩
    let value : HeaderValue := .ofText "Application/JSON ; charset=utf-8"
    let request := textCreation value
    let result := request.carried.json (Json.Reader.textValue "a string")
    binding.invocation.takesPayload = true ∧
      Stage.firstFault? engine binding none request () = none ∧
      ¬ Misjudged value ∧ ¬ IsForeign value ∧ ¬ Unsupported result ∧
      result = (⟨none, request.body⟩ : Payload).json (Json.Reader.textValue "a string") := by
  intro engine binding value request result
  have takes : binding.invocation.takesPayload = true := rfl
  have reached : Stage.firstFault? engine binding none request () = none :=
    Option.isNone_iff_eq_none.mp (by decide +kernel)
  have read : value.text? = some "Application/JSON ; charset=utf-8" := by decide +kernel
  have media : (Payload.essence "Application/JSON ; charset=utf-8").toList =
      "Application/JSON".toList := by decide +kernel
  have well : ¬ Misjudged value := by
    rw [misjudged_iff read, media]
    exact fun shouted => shouted.1 (by decide)
  have json : ¬ IsForeign value := by
    rw [isForeign_iff read, media]
    exact not_not_intro (.inl (by decide))
  obtain ⟨_, judges⟩ := declared_bodies engine binding none request ⟨0⟩ (.start ()) takes reached
  obtain ⟨_, _, declared⟩ := judges (Json.Reader.textValue "a string")
  have judged := (declared value rfl).1
  have accepted : ¬ Unsupported result := fun refused => json ((judged.right.mpr well).mp refused)
  exact ⟨takes, reached, well, json, accepted, judged.kept accepted⟩

/-- A type that is built on JSON is refused for its letter case alone, and a body whose declaration
cannot be read is read as JSON. -/
theorem shouting_refused_unreadable_read :
    let shouting : HeaderValue := .ofText "application/geo+JSON"
    let unreadable : HeaderValue := [0xff]
    let read (value : HeaderValue) := (textCreation value).carried.json (Json.Reader.textValue "a string")
    ¬ IsForeign shouting ∧ Recased shouting (.ofText "application/geo+json") ∧
      Unsupported (read shouting) ∧ ¬ Unsupported (read (.ofText "application/geo+json")) ∧
      IsForeign unreadable ∧ read unreadable = .ok "x" := by
  intro shouting unreadable read
  have shows : shouting.text? = some "application/geo+JSON" := by decide +kernel
  have quiet : HeaderValue.text? (.ofText "application/geo+json") = some "application/geo+json" := by
    decide +kernel
  have json : IsJson (Payload.essence "application/geo+JSON").toList := .inr (by decide +kernel)
  have carried (value : HeaderValue) :
      (textCreation value).carried = ⟨value.text?, Text.Utf8.encode "\"x\""⟩ := rfl
  refine ⟨?_, ⟨_, _, shows, quiet, by decide⟩, ⟨"application/geo+JSON", ?_⟩, ?_, ?_, rfl⟩
  · rw [isForeign_iff shows]
    exact not_not_intro json
  · simp only [read, carried, shows]
    exact Payload.json_of_foreign (by decide +kernel)
  · simp only [read, carried, quiet]
    rw [Payload.json_of_declaresJson (by decide +kernel)]
    exact Payload.not_unsupported_undeclared _ _
  · exact isForeign_of_unread (by decide)

end Sluice.Resource
