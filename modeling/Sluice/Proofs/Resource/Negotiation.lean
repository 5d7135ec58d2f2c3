import Sluice.Proofs.Http.MediaRanges
import Sluice.Proofs.Resource.Access
import Sluice.Resource.Request

/-!
# Negotiating the format of answers

Whether a client accepts JSON. Only the ranges matter that its `Accept` values list, `Admitted`: none at
all, or one that admits JSON. So the order of the ranges does not count, nor how they are spread over
values, nor letter case, nor white space around their parts, `Alike`; and to list more of them never
hurts.
-/

namespace Sluice.Http.MediaRange

/-! ## What is listed -/

/-- Whether some of the values list a range. -/
def Offers (values : List String) (range : String) : Prop :=
  ∃ text ∈ values, Text.Lists text range

/-- Whether values admit JSON: they list no range at all, or one that admits it. -/
def Admitted (values : List String) : Prop :=
  (∀ range, ¬ Offers values range) ∨ ∃ range, Offers values range ∧ AdmitsJson range.toList

/-- The ranges that are read are those that are listed. -/
theorem mem_listed_iff (values : List String) (range : String) :
    range ∈ listed values ↔ Offers values range := by
  simp only [listed, List.mem_flatMap, Text.mem_items_iff, Offers]

/-- Values are accepted exactly if they admit JSON. -/
theorem admitJson_iff (values : List String) : admitJson values = true ↔ Admitted values := by
  simp only [admitJson, Bool.or_eq_true, List.isEmpty_iff, List.any_eq_true, mem_listed_iff,
    acceptsJson_parse_iff, List.eq_nil_iff_forall_not_mem, Admitted]

example :
    admitJson ["text/csv, application/json; q=1e-46"] = false ∧
      admitJson ["text/csv", "Application/Geo+JSON ; Q = NaN"] = true := by
  decide +kernel

/-! ## Values that come to the same -/

/-- Texts that differ in white space around the ranges and around their parts. -/
def SpacedText (text other : String) : Prop :=
  List.Forall₂ SpacedRange (Text.piecesChars ',' text.toList) (Text.piecesChars ',' other.toList)

/-- Values that a client may send for others. -/
inductive Alike : List String → List String → Prop where
  /-- The same ranges in another order, whatever stands between them. -/
  | permuted {values others : List String} (same : (listed values).Perm (listed others)) :
      Alike values others
  /-- Two values as one, with a comma between them. -/
  | joined (before after : List String) (first second : String) :
      Alike (before ++ first :: second :: after) (before ++ (first ++ "," ++ second) :: after)
  /-- Other letter case, anywhere. -/
  | recased {values others : List String}
      (same : values.map (·.map Char.toLower) = others.map (·.map Char.toLower)) :
      Alike values others
  /-- Other white space around ranges, media types, names and values. -/
  | respaced {values others : List String} (same : List.Forall₂ SpacedText values others) :
      Alike values others
  | symm {values others : List String} (alike : Alike values others) : Alike others values
  | trans {values middle others : List String} (alike : Alike values middle)
      (onward : Alike middle others) : Alike values others

/-- Each range of some values has its counterpart in others, which admits JSON if it does. -/
def Meets (values others : List String) : Prop :=
  ∀ range, Offers values range →
    ∃ other, Offers others other ∧ (AdmitsJson range.toList → AdmitsJson other.toList)

/-- Values whose ranges have counterparts both ways are admitted together. -/
theorem Admitted.of_meets {values others : List String} (admitted : Admitted values)
    (onward : Meets values others) (back : Meets others values) : Admitted others := by
  rcases admitted with none | ⟨range, offered, admits⟩
  · refine .inl fun range offered => ?_
    obtain ⟨other, isOffered, _⟩ := back range offered
    exact none other isOffered
  · obtain ⟨other, isOffered, kept⟩ := onward range offered
    exact .inr ⟨other, isOffered, kept admits⟩

/-- What is offered is a piece that is not blank, without the white space around it. -/
theorem offers_iff (values : List String) (range : String) :
    Offers values range ↔ ∃ text ∈ values, ∃ piece ∈ Text.piecesChars ',' text.toList,
      Text.trimChars piece = range.toList ∧ Text.trimChars piece ≠ [] := by
  have trimmed (piece : List Char) :
      Text.trim (String.ofList piece) = range ↔ Text.trimChars piece = range.toList := by
    rw [Text.trim, ← String.toList_inj, String.toList_ofList, String.toList_ofList]
  constructor
  · rintro ⟨text, member, nonempty, _, isText, same⟩
    obtain ⟨piece, isPiece, rfl⟩ := List.mem_map.mp isText
    have shape := (trimmed piece).mp same
    refine ⟨text, member, piece, isPiece, shape, fun blank => nonempty ?_⟩
    rwa [← String.toList_inj, ← shape]
  · rintro ⟨text, member, piece, isPiece, shape, nonblank⟩
    refine ⟨text, member, ?_, String.ofList piece, List.mem_map_of_mem isPiece,
      (trimmed piece).mpr shape⟩
    rintro rfl
    exact nonblank shape

/-- Pieces that have counterparts make ranges that have counterparts. -/
theorem meets_of_pieces {values others : List String}
    (pieces : ∀ text ∈ values, ∀ piece ∈ Text.piecesChars ',' text.toList,
      Text.trimChars piece ≠ [] → ∃ other ∈ others, ∃ counterpart ∈ Text.piecesChars ',' other.toList,
        Text.trimChars counterpart ≠ [] ∧ (AdmitsJson piece → AdmitsJson counterpart)) :
    Meets values others := by
  intro range offered
  obtain ⟨text, isText, piece, isPiece, trimmed, nonblank⟩ := (offers_iff ..).mp offered
  obtain ⟨other, isOther, counterpart, isCounterpart, kept, admits⟩ :=
    pieces text isText piece isPiece nonblank
  refine ⟨String.ofList (Text.trimChars counterpart), (offers_iff ..).mpr
    ⟨other, isOther, counterpart, isCounterpart, String.toList_ofList.symm, kept⟩, ?_⟩
  rw [String.toList_ofList, ← trimmed, admitsJson_trimChars_iff, admitsJson_trimChars_iff]
  exact admits

/-- The order of ranges does not matter. -/
theorem meets_of_listed {values others : List String}
    (same : ∀ range ∈ listed values, range ∈ listed others) : Meets values others :=
  fun range offered =>
    ⟨range, (mem_listed_iff ..).mp (same range ((mem_listed_iff ..).mpr offered)), id⟩

/-- Two values list what they list as one. -/
theorem listed_joined (before after : List String) (first second : String) :
    listed (before ++ (first ++ "," ++ second) :: after) =
      listed (before ++ first :: second :: after) := by
  simp only [listed, List.flatMap_append, List.flatMap_cons, Text.items_comma, List.append_assoc]

/-- Letter case does not matter. -/
theorem meets_of_recased {values others : List String}
    (same : values.map (·.map Char.toLower) = others.map (·.map Char.toLower)) :
    Meets values others := by
  refine meets_of_pieces fun text isText piece isPiece nonblank => ?_
  obtain ⟨other, isOther, letters⟩ : ∃ other ∈ others, other.map Char.toLower = text.map Char.toLower :=
    List.mem_map.mp (same ▸ List.mem_map_of_mem isText)
  have lowered : (Text.piecesChars ',' other.toList).map (List.map Char.toLower) =
      (Text.piecesChars ',' text.toList).map (List.map Char.toLower) := by
    rw [← Text.piecesChars_map_toLower (by decide), ← Text.piecesChars_map_toLower (by decide),
      ← String.toList_map, ← String.toList_map, letters]
  obtain ⟨counterpart, isCounterpart, alike⟩ :
      ∃ counterpart ∈ Text.piecesChars ',' other.toList,
        counterpart.map Char.toLower = piece.map Char.toLower :=
    List.mem_map.mp (lowered ▸ List.mem_map_of_mem isPiece)
  refine ⟨other, isOther, counterpart, isCounterpart, fun blank => nonblank ?_, ?_⟩
  · rw [← List.map_eq_nil_iff, ← Text.trimChars_map_toLower, ← alike, Text.trimChars_map_toLower,
      blank, List.map_nil]
  · rw [← admitsJson_map_toLower_iff piece, ← admitsJson_map_toLower_iff counterpart, alike]
    exact id

/-- White space around ranges and their parts does not matter. -/
theorem meets_of_respaced {values others : List String}
    (same : List.Forall₂ SpacedText values others) : Meets values others := by
  refine meets_of_pieces fun text isText piece isPiece nonblank => ?_
  obtain ⟨other, isOther, spacedText⟩ := exists_related same isText
  obtain ⟨counterpart, isCounterpart, spaced⟩ := exists_related spacedText isPiece
  exact ⟨other, isOther, counterpart, isCounterpart, mt spaced.symm.blank nonblank,
    spaced.admitsJson⟩

/-- Values that come to the same have counterparts of each other's ranges. -/
theorem Alike.meets {values others : List String} (alike : Alike values others) :
    Meets values others ∧ Meets others values := by
  induction alike with
  | permuted same =>
    exact ⟨meets_of_listed fun _ => same.mem_iff.mp, meets_of_listed fun _ => same.mem_iff.mpr⟩
  | joined before after first second =>
    have same := listed_joined before after first second
    exact ⟨meets_of_listed fun _ => same ▸ id, meets_of_listed fun _ => same ▸ id⟩
  | recased same => exact ⟨meets_of_recased same, meets_of_recased same.symm⟩
  | respaced same =>
    have back := (same.imp fun _ _ spaced => (spaced.imp fun _ _ => SpacedRange.symm).flip).flip
    exact ⟨meets_of_respaced same, meets_of_respaced back⟩
  | symm _ ih => exact ih.symm
  | trans _ _ first second =>
    have onward {one two three : List String} (here : Meets one two) (there : Meets two three) :
        Meets one three := by
      intro range offered
      obtain ⟨middle, isMiddle, kept⟩ := here range offered
      obtain ⟨last, isLast, keptOn⟩ := there middle isMiddle
      exact ⟨last, isLast, keptOn ∘ kept⟩
    exact ⟨onward first.1 second.1, onward second.2 first.2⟩

/-- Values that come to the same are admitted together. -/
theorem Alike.admitted_iff {values others : List String} (alike : Alike values others) :
    Admitted values ↔ Admitted others := by
  obtain ⟨onward, back⟩ := alike.meets
  exact ⟨fun admitted => admitted.of_meets onward back, fun admitted => admitted.of_meets back onward⟩

/-- To list more than some ranges does no harm. -/
theorem Admitted.of_more {values others : List String} (admitted : Admitted values)
    (some : ∃ range, Offers values range)
    (kept : ∀ range, Offers values range → Offers others range) : Admitted others := by
  rcases admitted with none | ⟨range, offered, admits⟩
  · obtain ⟨range, offered⟩ := some
    exact absurd offered (none range)
  · exact .inr ⟨range, kept range offered, admits⟩

end Sluice.Http.MediaRange

namespace Sluice.Resource.Request

open Http.MediaRange

/-- A request is negotiable exactly if what its values list admits JSON. -/
theorem negotiate_eq_ok_iff_admitted (request : Request) :
    request.negotiate = .ok () ↔ Admitted request.acceptValues :=
  request.negotiate_eq_ok_iff.trans (admitJson_iff request.acceptValues)

/-- The format of the answer is agreed on exactly if the `Accept` values that can be read list no range,
or one that admits JSON; otherwise the failure quotes these values. What is agreed does not depend on the
order of the ranges, on how they are spread over values, on letter case or on white space, and to list
more ranges never undoes it. -/
theorem negotiation_exact (request : Request) :
    (request.negotiate = .ok () ↔
      Admitted ((request.headers.all "accept").filterMap (·.text?))) ∧
    (request.negotiate ≠ .ok () →
      request.negotiate = .error (.unsupportedFormat
        (", ".intercalate ((request.headers.all "accept").filterMap (·.text?))))) ∧
    (∀ other : Request, Alike request.acceptValues other.acceptValues →
      (other.negotiate = .ok () ↔ request.negotiate = .ok ())) ∧
    ∀ other : Request, request.negotiate = .ok () →
      (∃ range, Offers request.acceptValues range) →
      (∀ range, Offers request.acceptValues range → Offers other.acceptValues range) →
        other.negotiate = .ok () := by
  refine ⟨request.negotiate_eq_ok_iff_admitted, ?quoted, ?alike, ?more⟩
  case quoted =>
    intro refused
    by_cases admitted : admitJson request.acceptValues = true
    · exact absurd (if_pos admitted) refused
    · exact if_neg admitted
  case alike =>
    intro other alike
    rw [negotiate_eq_ok_iff_admitted, negotiate_eq_ok_iff_admitted, alike.admitted_iff]
  case more =>
    intro other admitted some kept
    rw [negotiate_eq_ok_iff_admitted] at admitted ⊢
    exact admitted.of_more some kept

end Sluice.Resource.Request
