import Sluice.Http.MediaRange
import Sluice.Proofs.Number.LiteralText
import Sluice.Proofs.Number.Single

/-!
# Ranges of media types

Which ranges admit JSON, said of their texts. A range is a media type with parameters behind
semicolons; it admits JSON if its media type covers it and no parameter `q` is a numeral that is at
most zero in single precision. `MediaRange.acceptsJson_parse_iff` says that this is what is decided of
it. Neither letter case nor white space around the parts of a range matters.
-/

namespace Sluice.Http.MediaRange

/-! ## Ranges that admit JSON -/

/-- The media types, in small letters, that are JSON or cover it. -/
def CoversJson (media : List Char) : Prop :=
  media = "*/*".toList ∨ media = "application/*".toList ∨ media = "application/json".toList ∨
    ∃ inner, media = "application/".toList ++ inner ++ "+json".toList

/-- The qualities that are at most zero: numerals, an undefined number not among them. -/
def IsRefusal (quality : List Char) : Prop :=
  ∃ literal, Number.Literal.Writes quality literal ∧ literal.toSingle.AtMostZero

/-- Whether a part of a range is a parameter that refuses it. -/
def Refuses (part : List Char) : Prop :=
  ∃ name value, part = name ++ '=' :: value ∧ '=' ∉ name ∧
    (Text.trimChars name).map Char.toLower = ['q'] ∧ IsRefusal (Text.trimChars value)

/-- Whether a range admits JSON: its media type covers it, and no part behind that refuses. -/
def AdmitsJson (range : List Char) : Prop :=
  ∃ media parts, Text.piecesChars ';' range = media :: parts ∧
    CoversJson ((Text.trimChars media).map Char.toLower) ∧ ∀ part ∈ parts, ¬ Refuses part

/-! ## Deciding it -/

/-- A quality excludes a range if it is at most zero. -/
theorem isZeroQuality_iff (quality : String) :
    isZeroQuality quality = true ↔ IsRefusal quality.toList := by
  unfold isZeroQuality IsRefusal
  split
  · next literal read =>
    rw [Number.Literal.atMostZeroInSingle_iff]
    constructor
    · exact fun small => ⟨literal, (Number.Literal.read?_eq_some_iff ..).mp read, small⟩
    · rintro ⟨other, written, small⟩
      have same := (Number.Literal.read?_eq_some_iff ..).mpr written
      rw [read] at same
      exact Option.some.inj same ▸ small
  · next unread =>
    simp only [Bool.false_eq_true, false_iff, not_exists, not_and]
    intro literal written
    rw [(Number.Literal.read?_eq_some_iff ..).mpr written] at unread
    cases unread

/-- A part with an equality sign is a parameter with a name and a value. -/
theorem parameter?_of_append {name value : List Char} (absent : '=' ∉ name) :
    parameter? (Text.trim (String.ofList (name ++ '=' :: value))) =
      some (Text.trim (String.ofList name), Text.trim (String.ofList value)) := by
  have inner : '=' ∉ Text.trimStartChars name := mt (@Text.trimStartChars_subset name _) absent
  simp only [parameter?, Text.cut, Text.trim, String.toList_ofList,
    Text.trimChars_append_cons (show Text.isBlank '=' = false by decide),
    Text.cutChars_append_cons inner, Option.map_some, Text.trimChars_trimStartChars,
    Text.trimChars_trimEndChars]

/-- A part without an equality sign is no parameter. -/
theorem parameter?_of_not_mem {part : List Char} (absent : '=' ∉ part) :
    parameter? (Text.trim (String.ofList part)) = none := by
  have inner : '=' ∉ Text.trimChars part := mt (@Text.trimChars_subset part _) absent
  simp only [parameter?, Text.cut, Text.trim, String.toList_ofList, Text.cutChars_of_not_mem inner,
    Option.map_none]

/-- A part refuses the range exactly if it is read as a parameter that excludes it. -/
theorem refuses_iff (part : List Char) :
    Refuses part ↔ ∃ parameter ∈ parameter? (Text.trim (String.ofList part)),
      parameter.1.map Char.toLower = "q" ∧ isZeroQuality parameter.2 = true := by
  have read (name value : List Char) :
      ((Text.trim (String.ofList name)).map Char.toLower = "q" ∧
        isZeroQuality (Text.trim (String.ofList value)) = true) ↔
      (Text.trimChars name).map Char.toLower = ['q'] ∧ IsRefusal (Text.trimChars value) := by
    rw [isZeroQuality_iff, ← String.toList_inj, String.toList_map, Text.trim, Text.trim,
      String.toList_ofList, String.toList_ofList, String.toList_ofList, String.toList_ofList,
      String.toList_ofList]
  constructor
  · rintro ⟨name, value, rfl, absent, refused⟩
    exact ⟨_, parameter?_of_append absent, (read name value).mpr refused⟩
  · rintro ⟨parameter, isParameter, refused⟩
    by_cases member : '=' ∈ part
    · obtain ⟨name, value, rfl, absent⟩ := List.eq_append_cons_of_mem member
      rw [parameter?_of_append absent] at isParameter
      cases isParameter
      exact ⟨name, value, rfl, absent, (read name value).mp refused⟩
    · rw [parameter?_of_not_mem member] at isParameter
      cases isParameter

/-- A subtype is JSON or built on it exactly if the media type with it covers JSON. -/
theorem isJsonSubtype_iff (subtype : List Char) :
    isJsonSubtype (String.ofList subtype) = true ↔
      subtype = ['*'] ∨ subtype = "json".toList ∨ ∃ inner, subtype = inner ++ "+json".toList := by
  have suffixed : "+json".toList.isSuffixOf subtype = true ↔
      ∃ inner, subtype = inner ++ "+json".toList := by
    rw [List.isSuffixOf_iff_suffix]
    exact exists_congr fun inner => eq_comm
  rw [isJsonSubtype, Bool.or_eq_true, Bool.or_eq_true, beq_iff_eq, beq_iff_eq, ← String.toList_inj,
    ← String.toList_inj, String.toList_ofList, suffixed, or_assoc]
  rfl

/-- A media type covers JSON exactly if it is one of those that do. -/
theorem coversJson_iff (media : List Char) :
    coversJson (String.ofList media) = true ↔ CoversJson media := by
  by_cases member : '/' ∈ media
  · obtain ⟨type, subtype, rfl, absent⟩ := List.eq_append_cons_of_mem member
    have parts (front behind : List Char) (plain : '/' ∉ front) :
        type ++ '/' :: subtype = front ++ '/' :: behind ↔ type = front ∧ subtype = behind := by
      refine ⟨Text.first_separator_unique absent plain, ?_⟩
      rintro ⟨rfl, rfl⟩
      rfl
    have plain : '/' ∉ "application".toList := by decide
    have anything := parts ['*'] ['*'] (by decide)
    have whole := parts "application".toList ['*'] plain
    have json := parts "application".toList "json".toList plain
    have built (inner : List Char) := parts "application".toList (inner ++ "+json".toList) plain
    calc coversJson (String.ofList (type ++ '/' :: subtype)) = true
        ↔ (type = ['*'] ∧ subtype = ['*']) ∨ (type = "application".toList ∧
            (subtype = ['*'] ∨ subtype = "json".toList ∨
              ∃ inner, subtype = inner ++ "+json".toList)) := by
          rw [← isJsonSubtype_iff]
          simp only [coversJson, Text.cut, String.toList_ofList, Text.cutChars_append_cons absent,
            Option.map_some, Option.any_some, Bool.or_eq_true, Bool.and_eq_true, beq_iff_eq,
            ← String.toList_inj]
          rfl
      _ ↔ CoversJson (type ++ '/' :: subtype) := by
          rw [and_or_left, and_or_left, ← exists_and_left, ← anything, ← whole, ← json]
          simp only [← built]
          rfl
  · have absent : ¬ CoversJson media := by
      rintro (rfl | rfl | rfl | ⟨inner, rfl⟩)
      · exact member (by decide)
      · exact member (by decide)
      · exact member (by decide)
      · exact member (List.mem_append_left _ (List.mem_append_left _ (by decide)))
    refine iff_of_false ?_ absent
    simp [coversJson, Text.cut, Text.cutChars_of_not_mem member]

/-- A range whose parts are known admits JSON if they do. -/
theorem admitsJson_iff {range media : List Char} {parts : List (List Char)}
    (shape : Text.piecesChars ';' range = media :: parts) :
    AdmitsJson range ↔
      CoversJson ((Text.trimChars media).map Char.toLower) ∧ ∀ part ∈ parts, ¬ Refuses part := by
  constructor
  · rintro ⟨other, others, same, admitted⟩
    rw [shape] at same
    cases same
    exact admitted
  · exact fun admitted => ⟨media, parts, shape, admitted⟩

/-- A range is accepted exactly if it admits JSON. -/
theorem acceptsJson_parse_iff (range : String) :
    (parse range).acceptsJson = true ↔ AdmitsJson range.toList := by
  obtain ⟨media, parts, shape⟩ :=
    List.exists_cons_of_ne_nil (Text.piecesChars_ne_nil ';' range.toList)
  have isMedia : (parse range).media = String.ofList ((Text.trimChars media).map Char.toLower) := by
    rw [← String.toList_inj]
    simp [parse, Text.pieces, shape, Text.trim]
  have excluded : (parse range).isExcluded = true ↔ ∃ part ∈ parts, Refuses part := by
    simp only [isExcluded, parse, Text.pieces, shape, List.map_cons, List.tail_cons,
      List.any_eq_true, List.mem_filterMap, List.mem_map, Bool.and_eq_true, beq_iff_eq, refuses_iff]
    constructor
    · rintro ⟨parameter, ⟨_, ⟨_, ⟨part, member, rfl⟩, rfl⟩, read⟩, refused⟩
      exact ⟨part, member, parameter, read, refused⟩
    · rintro ⟨part, member, parameter, read, refused⟩
      exact ⟨parameter, ⟨_, ⟨_, ⟨part, member, rfl⟩, rfl⟩, read⟩, refused⟩
  rw [admitsJson_iff shape, acceptsJson, isMedia, Bool.and_eq_true, Bool.not_eq_true',
    ← Bool.not_eq_true, excluded, coversJson_iff, and_comm]
  simp only [not_exists, not_and]

/-! ## White space -/

/-- White space around a part does not matter. -/
theorem refuses_trimChars_iff (part : List Char) : Refuses (Text.trimChars part) ↔ Refuses part := by
  rw [refuses_iff, refuses_iff, Text.trim, Text.trim, String.toList_ofList, String.toList_ofList,
    Text.trimChars_trimChars]

/-- Whether parts refuse the range shows when they are trimmed. -/
theorem forall_not_refuses_iff (parts : List (List Char)) :
    (∀ part ∈ parts, ¬ Refuses part) ↔ ∀ part ∈ parts.map Text.trimChars, ¬ Refuses part := by
  rw [List.forall_mem_map]
  exact forall₂_congr fun part _ => not_congr (refuses_trimChars_iff part).symm

/-- White space around a range does not matter. -/
theorem admitsJson_trimChars_iff (range : List Char) :
    AdmitsJson (Text.trimChars range) ↔ AdmitsJson range := by
  obtain ⟨media, parts, shape⟩ := List.exists_cons_of_ne_nil (Text.piecesChars_ne_nil ';' range)
  obtain ⟨inner, others, trimmed⟩ :=
    List.exists_cons_of_ne_nil (Text.piecesChars_ne_nil ';' (Text.trimChars range))
  have same := Text.map_piecesChars_trimChars (show Text.isBlank ';' = false by decide) range
  rw [shape, trimmed, List.map_cons, List.map_cons, List.cons_eq_cons] at same
  rw [admitsJson_iff shape, admitsJson_iff trimmed, forall_not_refuses_iff parts,
    forall_not_refuses_iff others, same.1, same.2]

/-- A member of one list is related to a member of the other. -/
theorem exists_related {α β : Type} {related : α → β → Prop} {first : List α} {second : List β}
    (all : List.Forall₂ related first second) {a : α} (member : a ∈ first) :
    ∃ b ∈ second, related a b := by
  induction all with
  | nil => cases member
  | cons head _ ih =>
    rcases List.mem_cons.mp member with rfl | later
    · exact ⟨_, List.mem_cons_self, head⟩
    · obtain ⟨b, isLater, holds⟩ := ih later
      exact ⟨b, List.mem_cons_of_mem _ isLater, holds⟩

/-- Parts of ranges that differ in white space: around them, or around the name and the value. -/
inductive SpacedPart : List Char → List Char → Prop where
  | around {part other : List Char} (same : Text.trimChars part = Text.trimChars other) :
      SpacedPart part other
  | within {name value otherName otherValue : List Char} (plain : '=' ∉ name)
      (otherPlain : '=' ∉ otherName) (sameName : Text.trimChars name = Text.trimChars otherName)
      (sameValue : Text.trimChars value = Text.trimChars otherValue) :
      SpacedPart (name ++ '=' :: value) (otherName ++ '=' :: otherValue)

/-- Ranges that differ in white space around the media type, the names and the values. -/
def SpacedRange (range other : List Char) : Prop :=
  ∃ media parts otherMedia otherParts, Text.piecesChars ';' range = media :: parts ∧
    Text.piecesChars ';' other = otherMedia :: otherParts ∧
      Text.trimChars media = Text.trimChars otherMedia ∧ List.Forall₂ SpacedPart parts otherParts

theorem SpacedPart.symm {part other : List Char} (spaced : SpacedPart part other) :
    SpacedPart other part := by
  cases spaced with
  | around same => exact .around same.symm
  | within plain otherPlain sameName sameValue =>
    exact .within otherPlain plain sameName.symm sameValue.symm

theorem SpacedRange.symm {range other : List Char} (spaced : SpacedRange range other) :
    SpacedRange other range := by
  obtain ⟨media, parts, otherMedia, otherParts, shape, otherShape, same, spacedParts⟩ := spaced
  exact ⟨otherMedia, otherParts, media, parts, otherShape, shape, same.symm,
    spacedParts.flip.imp fun _ _ => SpacedPart.symm⟩

/-- A part refuses whatever the white space in it. -/
theorem SpacedPart.refuses {part other : List Char} (spaced : SpacedPart part other)
    (refused : Refuses part) : Refuses other := by
  cases spaced with
  | around same => rwa [← refuses_trimChars_iff, ← same, refuses_trimChars_iff]
  | within plain otherPlain sameName sameValue =>
    obtain ⟨_, _, shape, absent, isName, isRefusal⟩ := refused
    obtain ⟨rfl, rfl⟩ := Text.first_separator_unique plain absent shape
    exact ⟨_, _, rfl, otherPlain, sameName ▸ isName, sameValue ▸ isRefusal⟩

/-- A range admits JSON whatever the white space in it. -/
theorem SpacedRange.admitsJson {range other : List Char} (spaced : SpacedRange range other)
    (admitted : AdmitsJson range) : AdmitsJson other := by
  obtain ⟨otherMedia, otherParts, media, parts, otherShape, shape, same, spacedParts⟩ := spaced.symm
  rw [admitsJson_iff shape] at admitted
  rw [admitsJson_iff otherShape, same]
  refine ⟨admitted.1, fun other member refused => ?_⟩
  obtain ⟨part, isPart, spacedPart⟩ := exists_related spacedParts member
  exact admitted.2 part isPart (spacedPart.refuses refused)

/-- A range is blank whatever the white space in it. -/
theorem SpacedRange.blank {range other : List Char} (spaced : SpacedRange range other)
    (blank : Text.trimChars range = []) : Text.trimChars other = [] := by
  have shown : Text.isBlank ';' = false := by decide
  obtain ⟨media, parts, otherMedia, otherParts, shape, otherShape, same, spacedParts⟩ := spaced
  obtain ⟨blankMedia, rfl⟩ := (Text.trimChars_eq_nil_iff_of_pieces shown shape).mp blank
  obtain rfl := List.forall₂_nil_left_iff.mp spacedParts
  exact (Text.trimChars_eq_nil_iff_of_pieces shown otherShape).mpr ⟨same ▸ blankMedia, rfl⟩

/-! ## Letter case -/

/-- A part refuses in any letter case. -/
theorem refuses_map_toLower_iff (part : List Char) :
    Refuses (part.map Char.toLower) ↔ Refuses part := by
  have parameter (name value : List Char) :
      ((Text.trimChars (name.map Char.toLower)).map Char.toLower = ['q'] ∧
        IsRefusal (Text.trimChars (value.map Char.toLower))) ↔
      (Text.trimChars name).map Char.toLower = ['q'] ∧ IsRefusal (Text.trimChars value) := by
    rw [Text.trimChars_map_toLower, Text.trimChars_map_toLower, Text.map_toLower_map_toLower]
    exact and_congr_right fun _ => exists_congr fun literal =>
      and_congr_left fun _ => Number.Literal.writes_map_toLower_iff _ literal
  have mark {c : Char} : c.toLower = '=' ↔ c = '=' := Text.toLower_eq_iff (by decide)
  have kept (name : List Char) : '=' ∈ name.map Char.toLower ↔ '=' ∈ name := by
    simp only [List.mem_map, mark, exists_eq_right]
  constructor
  · rintro ⟨_, _, shape, absent, refused⟩
    obtain ⟨name, rest, rfl, rfl, behind⟩ := List.map_eq_append_iff.mp shape
    obtain ⟨c, value, rfl, isMark, rfl⟩ := List.map_eq_cons_iff.mp behind
    obtain rfl := mark.mp isMark
    exact ⟨name, value, rfl, mt (kept name).mpr absent, (parameter name value).mp refused⟩
  · rintro ⟨name, value, rfl, absent, refused⟩
    refine ⟨name.map Char.toLower, value.map Char.toLower, ?_, mt (kept name).mp absent,
      (parameter name value).mpr refused⟩
    rw [List.map_append, List.map_cons, mark.mpr rfl]

/-- A range admits JSON in any letter case. -/
theorem admitsJson_map_toLower_iff (range : List Char) :
    AdmitsJson (range.map Char.toLower) ↔ AdmitsJson range := by
  obtain ⟨media, parts, shape⟩ := List.exists_cons_of_ne_nil (Text.piecesChars_ne_nil ';' range)
  have lowered : Text.piecesChars ';' (range.map Char.toLower) =
      media.map Char.toLower :: parts.map (List.map Char.toLower) := by
    rw [Text.piecesChars_map_toLower (by decide), shape, List.map_cons]
  rw [admitsJson_iff shape, admitsJson_iff lowered, Text.trimChars_map_toLower,
    Text.map_toLower_map_toLower, List.forall_mem_map]
  exact and_congr_right fun _ => forall₂_congr fun part _ =>
    not_congr (refuses_map_toLower_iff part)

end Sluice.Http.MediaRange
