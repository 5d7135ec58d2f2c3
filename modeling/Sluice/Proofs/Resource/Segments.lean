import Mathlib.Data.List.Induction
import Sluice.Resource.Template

/-!
# Segments of paths

The segments of a path are what stands between its separators, without the empty pieces. Reading
segments and writing them as a path are tied together in both directions: `segmentChars_path` says
that a path of clean segments has just these segments, and `segmentChars_eq_concat` finds the place
of the last segment in any path. The second fact decides where a checked template is cut: the part
in front of its identifier has all other segments and no more.
-/

namespace Sluice

namespace Text

/-- Cutting at a separator agrees with the splitting of lists. -/
theorem piecesChars_eq_splitOn (separator : Char) (cs : List Char) :
    piecesChars separator cs = cs.splitOn separator := by
  induction cs with
  | nil => rfl
  | cons c rest ih =>
    rw [List.splitOn_cons_eq_if_modifyHead, ← ih]
    simp only [piecesChars, List.foldr_cons, beq_iff_eq]
    split
    · rfl
    · have nonempty := piecesChars_ne_nil separator rest
      simp only [piecesChars] at nonempty
      obtain ⟨piece, tail, shape⟩ := List.exists_cons_of_ne_nil nonempty
      rw [shape]
      rfl

/-- No piece contains the separator. -/
theorem separator_not_mem_piece {separator : Char} {cs piece : List Char}
    (member : piece ∈ piecesChars separator cs) : separator ∉ piece := by
  rw [piecesChars_eq_splitOn] at member
  induction cs generalizing piece with
  | nil => simp_all
  | cons c rest ih =>
    rw [List.splitOn_cons_eq_if_modifyHead] at member
    split at member
    · rcases List.mem_cons.mp member with rfl | later
      · exact List.not_mem_nil
      · exact ih later
    · next different =>
      obtain ⟨first, tail, shape⟩ :=
        List.exists_cons_of_ne_nil (List.splitOn_ne_nil separator rest)
      rw [shape, List.modifyHead_cons] at member
      rcases List.mem_cons.mp member with rfl | later
      · have clean : separator ∉ first := ih (by rw [shape]; exact List.mem_cons_self)
        simp only [beq_iff_eq] at different
        simp [clean, Ne.symm different]
      · exact ih (by rw [shape]; exact List.mem_cons_of_mem _ later)

/-- The first separator of a text is at one place. -/
theorem first_separator_unique {separator : Char} {before other after rest : List Char}
    (absent : separator ∉ before) (missing : separator ∉ other)
    (same : before ++ separator :: after = other ++ separator :: rest) :
    before = other ∧ after = rest := by
  induction before generalizing other with
  | nil =>
    cases other with
    | nil => simpa using same
    | cons c tail =>
      obtain ⟨rfl, _⟩ := List.cons_eq_cons.mp same
      exact absurd List.mem_cons_self missing
  | cons c front ih =>
    cases other with
    | nil =>
      obtain ⟨rfl, _⟩ := List.cons_eq_cons.mp same
      exact absurd List.mem_cons_self absent
    | cons d tail =>
      obtain ⟨rfl, onward⟩ := List.cons_eq_cons.mp same
      obtain ⟨rfl, rfl⟩ := ih (fun member => absent (List.mem_cons_of_mem c member))
        (fun member => missing (List.mem_cons_of_mem c member)) onward
      exact ⟨rfl, rfl⟩

/-- A text is split by its last separator. -/
theorem exists_last_separator {separator : Char} {cs : List Char} (member : separator ∈ cs) :
    ∃ before after, cs = before ++ separator :: after ∧ separator ∉ after := by
  obtain ⟨front, back, split, absent⟩ :=
    List.eq_append_cons_of_mem (List.mem_reverse.mpr member)
  refine ⟨back.reverse, front.reverse, ?_, by simpa using absent⟩
  have mirrored := congrArg List.reverse split
  simpa using mirrored

/-- The last separator of a text is at one place. -/
theorem last_separator_unique {separator : Char} {before other after rest : List Char}
    (absent : separator ∉ after) (missing : separator ∉ rest)
    (same : before ++ separator :: after = other ++ separator :: rest) :
    before = other ∧ after = rest := by
  have mirrored : after.reverse ++ separator :: before.reverse =
      rest.reverse ++ separator :: other.reverse := by
    simpa using congrArg List.reverse same
  obtain ⟨behind, front⟩ :=
    first_separator_unique (by simpa using absent) (by simpa using missing) mirrored
  exact ⟨List.reverse_inj.mp front, List.reverse_inj.mp behind⟩

end Text

namespace Resource.Template

/-- A segment as it stands in a path: not empty and without separators. -/
def IsSegment (segment : List Char) : Prop :=
  segment ≠ [] ∧ '/' ∉ segment

/-- What is read as a segment is one. -/
theorem isSegment_of_mem {cs segment : List Char} (member : segment ∈ segmentChars cs) :
    IsSegment segment := by
  simp only [segmentChars, List.mem_filter, Bool.not_eq_true', List.isEmpty_eq_false_iff] at member
  exact ⟨member.2, Text.separator_not_mem_piece member.1⟩

@[simp] theorem segmentChars_nil : segmentChars [] = [] := rfl

/-- A separator parts the segments in front of it from those behind it. -/
theorem segmentChars_append_separator (before after : List Char) :
    segmentChars (before ++ '/' :: after) = segmentChars before ++ segmentChars after := by
  simp only [segmentChars, Text.piecesChars_eq_splitOn, List.splitOn_append_cons_self,
    List.filter_append]

/-- A segment alone is a path with this one segment. -/
theorem segmentChars_segment {segment : List Char} (clean : IsSegment segment) :
    segmentChars segment = [segment] := by
  rw [segmentChars, Text.piecesChars_eq_splitOn, List.splitOn_eq_singleton clean.2]
  simp [clean.1]

/-- Segments as a path, each behind a separator. -/
def pathChars (segments : List (List Char)) : List Char :=
  segments.flatMap ('/' :: ·)

@[simp] theorem pathChars_append (first second : List (List Char)) :
    pathChars (first ++ second) = pathChars first ++ pathChars second :=
  List.flatMap_append

@[simp] theorem pathChars_singleton (segment : List Char) :
    pathChars [segment] = '/' :: segment := by
  simp [pathChars]

/-- A path of segments has just these segments. -/
theorem segmentChars_path {segments : List (List Char)}
    (clean : ∀ segment ∈ segments, IsSegment segment) :
    segmentChars (pathChars segments) = segments := by
  induction segments using List.reverseRecOn with
  | nil => rfl
  | append_singleton earlier last ih =>
    rw [pathChars_append, pathChars_singleton, segmentChars_append_separator,
      ih fun segment member => clean segment (List.mem_append_left _ member),
      segmentChars_segment (clean last (by simp))]

/-- Different lists of segments make different paths. -/
theorem pathChars_injective {first second : List (List Char)}
    (cleanFirst : ∀ segment ∈ first, IsSegment segment)
    (cleanSecond : ∀ segment ∈ second, IsSegment segment)
    (same : pathChars first = pathChars second) : first = second := by
  rw [← segmentChars_path cleanFirst, same, segmentChars_path cleanSecond]

/-- Writing segments with separators between them is the path without its first separator. -/
theorem toList_joined {segments : List String} (nonempty : segments ≠ []) :
    (joined segments).toList = pathChars (segments.map String.toList) := by
  rw [joined, String.toList_append, String.toList_intercalate]
  induction segments with
  | nil => exact absurd rfl nonempty
  | cons first rest ih =>
    cases rest with
    | nil => simp [pathChars]
    | cons second tail =>
      have later := ih (List.cons_ne_nil second tail)
      simp only [pathChars, List.map_cons, List.flatMap_cons] at later ⊢
      rw [List.intercalate_cons_cons, ← later]
      simp

/-- The last segment of a path stands in front of nothing but separators, and what is in front of it
has the other segments. -/
theorem segmentChars_eq_concat {cs : List Char} {earlier : List (List Char)} {last : List Char}
    (segments : segmentChars cs = earlier ++ [last]) :
    ∃ before slashes, cs = before ++ last ++ slashes ∧ segmentChars before = earlier ∧
      ∀ c ∈ slashes, c = '/' := by
  -- Strong induction, since a separator at the end is taken off before the last segment is found.
  induction size : cs.length using Nat.strongRecOn generalizing cs with
  | ind bound ih =>
    by_cases slashed : '/' ∈ cs
    · obtain ⟨before, after, rfl, absent⟩ := Text.exists_last_separator slashed
      rw [segmentChars_append_separator] at segments
      by_cases trailing : after = []
      · subst trailing
        simp only [segmentChars_nil, List.append_nil] at segments
        have shorter : before.length < bound := by
          rw [← size]
          simp
        obtain ⟨front, slashes, rfl, parts, only⟩ := ih before.length shorter segments rfl
        refine ⟨front, slashes ++ ['/'], by simp, parts, ?_⟩
        intro c member
        rcases List.mem_append.mp member with earlierSlash | lastSlash
        · exact only c earlierSlash
        · exact List.mem_singleton.mp lastSlash
      · rw [segmentChars_segment ⟨trailing, absent⟩] at segments
        obtain ⟨parts, same⟩ := List.append_inj' segments rfl
        obtain rfl := List.singleton_inj.mp same
        refine ⟨before ++ ['/'], [], by simp, ?_, by simp⟩
        rw [segmentChars_append_separator, segmentChars_nil, List.append_nil, parts]
    · by_cases empty : cs = []
      · subst empty
        simp at segments
      · rw [segmentChars_segment ⟨empty, slashed⟩] at segments
        rw [← List.nil_append [cs]] at segments
        obtain ⟨parts, same⟩ := List.append_inj' segments rfl
        obtain rfl := List.singleton_inj.mp same
        exact ⟨[], [], by simp, by simpa using parts, by simp⟩

/-- Where a part does not begin any more, the last occurrence that has been found stays. -/
theorem lastOccurrence_of_absent {part cs : List Char} {found : Option Nat} {position : Nat}
    (present : part ≠ []) (absent : ∀ before rest, cs = before ++ rest → ¬ part <+: rest) :
    lastOccurrence part position found cs = found := by
  induction cs generalizing position with
  | nil => simp [lastOccurrence, present]
  | cons c rest ih =>
    have here : ¬ part <+: c :: rest := absent [] (c :: rest) rfl
    rw [lastOccurrence, beginsWith, if_neg (by simpa using here)]
    refine ih fun before after split => absent (c :: before) after ?_
    rw [split, List.cons_append]

/-- What was found before a place where the part begins does not matter. -/
theorem lastOccurrence_append {part before rest : List Char} (position : Nat)
    (found : Option Nat) (begins : part <+: rest) (present : rest ≠ []) :
    lastOccurrence part position found (before ++ rest) =
      lastOccurrence part (position + before.length) none rest := by
  induction before generalizing position found with
  | nil =>
    obtain ⟨c, tail, rfl⟩ := List.exists_cons_of_ne_nil present
    simp only [List.nil_append, List.length_nil, Nat.add_zero, lastOccurrence, beginsWith,
      List.isPrefixOf_iff_prefix.mpr begins, if_true]
  | cons c tail ih =>
    rw [List.cons_append, lastOccurrence, ih, List.length_cons]
    congr 1
    omega

/-- Behind the beginning of a segment that only separators follow, that segment does not begin
again: its last character would have to be one of the separators. -/
theorem not_prefix_behind_segment {segment slashes : List Char} (clean : IsSegment segment)
    (only : ∀ c ∈ slashes, c = '/') {c : Char} {before rest : List Char}
    (split : segment ++ slashes = c :: before ++ rest) : ¬ segment <+: rest := by
  rintro ⟨after, rfl⟩
  obtain ⟨x, front, shape⟩ : ∃ x front, segment = front ++ [x] :=
    ⟨segment.getLast clean.1, segment.dropLast, (List.dropLast_concat_getLast clean.1).symm⟩
  have inSlashes : x ∈ slashes := by
    have aligned : segment ++ slashes = (c :: before ++ front) ++ x :: after := by
      rw [split, shape]
      simp
    rcases List.append_eq_append_iff.mp aligned with ⟨middle, _, rfl⟩ | ⟨middle, long, short⟩
    · simp
    · have lengths := congrArg List.length long
      rw [shape] at lengths
      simp only [List.length_append, List.length_cons, List.length_nil] at lengths
      obtain rfl : middle = [] := List.eq_nil_of_length_eq_zero (by omega)
      rw [List.nil_append] at short
      simp [← short]
  have inSegment : x ∈ segment := by simp [shape]
  exact clean.2 (only x inSlashes ▸ inSegment)

/-- The last segment of a path occurs last where it stands. -/
theorem lastOccurrence_segment {before last slashes : List Char} (clean : IsSegment last)
    (only : ∀ c ∈ slashes, c = '/') :
    lastOccurrence last 0 none (before ++ (last ++ slashes)) = some before.length := by
  obtain ⟨c, tail, rfl⟩ := List.exists_cons_of_ne_nil clean.1
  rw [lastOccurrence_append 0 none (List.prefix_append _ _) (by simp), List.cons_append,
    lastOccurrence, beginsWith, if_pos (List.isPrefixOf_iff_prefix.mpr ⟨slashes, by simp⟩),
    Nat.zero_add]
  refine lastOccurrence_of_absent clean.1 fun front rest split => ?_
  have whole : (c :: tail) ++ slashes = c :: front ++ rest := by
    rw [List.cons_append, split]
    rfl
  exact not_prefix_behind_segment clean only whole

/-- The part of a path in front of the last occurrence of its last segment has the other segments.
-/
theorem segmentChars_take_cut {cs last : List Char} {earlier : List (List Char)}
    (segments : segmentChars cs = earlier ++ [last]) :
    segmentChars (cs.take ((lastOccurrence last 0 none cs).getD cs.length)) = earlier := by
  have clean : IsSegment last := isSegment_of_mem (by rw [segments]; simp)
  obtain ⟨before, slashes, rfl, parts, only⟩ := segmentChars_eq_concat segments
  rw [List.append_assoc, lastOccurrence_segment clean only, Option.getD_some, List.take_left, parts]

/-- A delimited segment is its name between two delimiters. -/
theorem eq_of_delimitedName? {segment name : List Char}
    (delimited : delimitedName? segment = some name) :
    ∃ opening closing, segment = opening :: (name ++ [closing]) := by
  have rebuilt {rest : List Char} {closing : Char} (ends : rest.getLast? = some closing) :
      rest = rest.dropLast ++ [closing] := by
    obtain ⟨front, rfl⟩ := List.getLast?_eq_some_iff.mp ends
    simp
  cases segment with
  | nil => simp [delimitedName?] at delimited
  | cons first rest =>
    simp only [delimitedName?] at delimited
    split at delimited
    · next inner braces =>
      split at braces
      · next ends =>
        obtain rfl := Option.some.inj braces
        obtain rfl := Option.some.inj delimited
        exact ⟨first, _, congrArg (first :: ·) (rebuilt ends.2)⟩
      · cases braces
    · split at delimited
      · next ends =>
        obtain rfl := Option.some.inj delimited
        exact ⟨first, _, congrArg (first :: ·) (rebuilt ends.2)⟩
      · cases delimited

/-- The segments of a template in front of its identifier. -/
def literalChars (template : Template) : List (List Char) :=
  (segmentChars template.text.toList).dropLast

/-- What is known of a template that has been checked. -/
structure Sound (template : Template) : Prop where
  segments : segmentChars template.text.toList =
    template.literalChars ++ [template.identifierSegment.toList]
  literal : ∀ segment ∈ template.literalChars, isLiteral segment = true
  based : template.literalChars ≠ []
  delimited : delimitedName? template.identifierSegment.toList = some template.identifierName.toList
  named : template.identifierName.toList ≠ []
  collection : segmentChars template.collection.toList = template.literalChars

/-- A template that passes the check is sound and keeps its text. -/
theorem sound_of_validate {text : String} {template : Template}
    (valid : validate text = .ok template) : template.text = text ∧ template.Sound := by
  simp only [validate] at valid
  split at valid
  · next last base earlier shape =>
    have segments : segmentChars text.toList = (earlier.reverse ++ [base]) ++ [last] := by
      have mirrored := congrArg List.reverse shape
      simpa using mirrored
    split at valid
    · cases valid
    · cases valid
    · next n ame delimited =>
      split at valid
      · cases valid
      · next baseLiteral =>
        split at valid
        · cases valid
        · next none_special =>
          obtain rfl := Except.ok.inj valid
          have literals : (segmentChars text.toList).dropLast = earlier.reverse ++ [base] := by
            rw [segments, List.dropLast_concat]
          refine ⟨rfl, ?_⟩
          constructor
          · simp only [literalChars, String.toList_ofList]
            rw [literals, segments]
          · intro segment member
            simp only [literalChars] at member
            rw [literals] at member
            rcases List.mem_append.mp member with inner | outer
            · simpa using List.find?_eq_none.mp none_special segment inner
            · obtain rfl := List.mem_singleton.mp outer
              simpa using baseLiteral
          · simp only [literalChars]
            rw [literals]
            simp
          · simpa using delimited
          · simp
          · simp only [literalChars, String.toList_ofList]
            rw [literals, segmentChars_take_cut segments]
  · cases valid

/-- The path of the collection of a template, from its literal segments. -/
def base (template : Template) : List Char :=
  pathChars template.literalChars

namespace Sound

variable {template : Template}

/-- The literal segments of a checked template are segments. -/
theorem isSegment (_sound : template.Sound) {segment : List Char}
    (member : segment ∈ template.literalChars) : IsSegment segment :=
  isSegment_of_mem (List.dropLast_subset _ member)

/-- The identifier stands in one segment, and so does its name. -/
theorem separator_not_mem_name (sound : template.Sound) :
    '/' ∉ template.identifierName.toList := by
  have member : template.identifierSegment.toList ∈ segmentChars template.text.toList := by
    rw [sound.segments]
    simp
  have clean := isSegment_of_mem member
  obtain ⟨opening, closing, shape⟩ := eq_of_delimitedName? sound.delimited
  intro inName
  apply clean.2
  rw [shape]
  simp [inName]

/-- The route of the collection is the path of the literal segments. -/
theorem toList_routeCollection (sound : template.Sound) :
    template.routeCollection.toList = template.base := by
  rw [routeCollection, segmentsOf, sound.collection, toList_joined (by simpa using sound.based)]
  simp [base]

/-- The route of an item is that of the collection with the name of the identifier as a parameter.
-/
theorem toList_routeItem (sound : template.Sound) :
    template.routeItem.toList = template.base ++ '/' :: ':' :: template.identifierName.toList := by
  rw [routeItem, Template.segments, segmentsOf, sound.segments, toList_joined (by simp)]
  simp [base]

/-- A character with a meaning of its own does not occur in the path of a collection. -/
theorem not_mem_base (sound : template.Sound) {c : Char} (special : isSpecial c = true) :
    c ∉ template.base := by
  intro member
  obtain ⟨segment, literal, inSegment⟩ := List.mem_flatMap.mp member
  rcases List.mem_cons.mp inSegment with rfl | inside
  · exact absurd special (by decide)
  · have plain := sound.literal segment literal
    simp only [isLiteral, Bool.not_eq_true', List.any_eq_false] at plain
    exact plain c inside special

/-- The path of a collection begins with a separator and does not end with one. -/
theorem base_shape (sound : template.Sound) :
    (∃ rest, template.base = '/' :: rest) ∧
      ∃ front last, template.base = front ++ [last] ∧ last ≠ '/' := by
  constructor
  · obtain ⟨segment, rest, shape⟩ := List.exists_cons_of_ne_nil sound.based
    exact ⟨segment ++ pathChars rest, by rw [base, shape]; simp [pathChars]⟩
  · have literals := List.dropLast_concat_getLast sound.based
    have clean := sound.isSegment (List.getLast_mem sound.based)
    obtain ⟨front, last, shape⟩ : ∃ front last, template.literalChars.getLast sound.based =
        front ++ [last] :=
      ⟨_, _, (List.dropLast_concat_getLast clean.1).symm⟩
    refine ⟨pathChars template.literalChars.dropLast ++ '/' :: front, last, ?_, ?_⟩
    · rw [base, ← literals, pathChars_append, pathChars_singleton, shape]
      simp
    · rintro rfl
      exact clean.2 (by rw [shape]; simp)

/-- Collections with the same path have the same literal segments. -/
theorem base_eq_iff (sound : template.Sound) {other : Template} (otherSound : other.Sound) :
    template.base = other.base ↔ template.literalChars = other.literalChars := by
  constructor
  · exact pathChars_injective (fun _ => sound.isSegment) (fun _ => otherSound.isSegment)
  · intro same
    rw [base, base, same]

end Sound

end Resource.Template

end Sluice
