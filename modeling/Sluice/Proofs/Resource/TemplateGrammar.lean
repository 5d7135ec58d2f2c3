import Mathlib.Logic.Relation
import Sluice.Proofs.Resource.Segments

/-!
# Which texts are templates

Whether a text is a template is a question about its segments. `Template.Fits` says what the segments
of a template look like, `Template.FirstFault` what is wrong with any others, and every list of segments
is one or the other (`fits_or_firstFault`). `Template.validate` decides just this: a text that fits is
cut in front of the separators behind its last segment (`validate_of_fits`), and any other is refused
with its first fault (`validate_of_firstFault`).

Texts have the same segments exactly if one becomes the other by adding and taking away separators in
front, at the end and next to other separators: `Template.respaced_iff`.
-/

namespace Sluice

/-- A fault of a template as one of another text. -/
def StartError.about (text : String) : StartError → StartError
  | .tooFewSegments _ => .tooFewSegments text
  | .missingIdentifier _ => .missingIdentifier text
  | .baseSegmentParameterized _ => .baseSegmentParameterized text
  | .invalidLiteralSegment _ segment => .invalidLiteralSegment text segment
  | fault => fault

namespace Resource.Template

/-! ## The grammar -/

/-- The characters that have a meaning of their own in a route. -/
def specials : List Char := [':', '*', '\x7b', '\x7d', '<', '>']

/-- A segment that is more than plain text. -/
def HasSpecial (segment : String) : Prop :=
  ∃ c ∈ segment.toList, c ∈ specials

/-- A segment that is a name between braces or between angle brackets. -/
def Names (segment name : String) : Prop :=
  name ≠ "" ∧ (segment = "\x7b" ++ name ++ "\x7d" ∨ segment = "<" ++ name ++ ">")

/-- The segments of a template: at least one of plain text, and one that names the identifier. -/
inductive Fits : List String → Prop
  | named {literals : List String} {base last name : String}
      (plain : ∀ segment ∈ literals ++ [base], ¬ HasSpecial segment) (names : Names last name) :
      Fits (literals ++ [base, last])

/-- What is wrong with a text as a template, given its segments. A fault counts only where none of
those before it does. -/
inductive FirstFault (text : String) : List String → StartError → Prop
  | few {segments : List String} (few : segments.length < 2) :
      FirstFault text segments (.tooFewSegments text)
  | unnamed {literals : List String} {base last : String} (unnamed : ∀ name, ¬ Names last name) :
      FirstFault text (literals ++ [base, last]) (.missingIdentifier text)
  | parameterized {literals : List String} {base last name : String} (names : Names last name)
      (special : HasSpecial base) :
      FirstFault text (literals ++ [base, last]) (.baseSegmentParameterized text)
  | notPlain {front back : List String} {segment base last name : String}
      (names : Names last name) (plainBase : ¬ HasSpecial base)
      (plainFront : ∀ earlier ∈ front, ¬ HasSpecial earlier) (special : HasSpecial segment) :
      FirstFault text (front ++ segment :: back ++ [base, last])
        (.invalidLiteralSegment text segment)

/-- The first segment with a property, if there is any. -/
theorem exists_first_special (segments : List String) :
    (∀ segment ∈ segments, ¬ HasSpecial segment) ∨
      ∃ front segment back, segments = front ++ segment :: back ∧
        (∀ earlier ∈ front, ¬ HasSpecial earlier) ∧ HasSpecial segment := by
  induction segments with
  | nil => exact .inl (by simp)
  | cons first rest ih =>
    by_cases special : HasSpecial first
    · exact .inr ⟨[], first, rest, rfl, by simp, special⟩
    · rcases ih with plain | ⟨front, segment, back, rfl, plain, found⟩
      · exact .inl (List.forall_mem_cons.mpr ⟨special, plain⟩)
      · exact .inr ⟨first :: front, segment, back, rfl,
          List.forall_mem_cons.mpr ⟨special, plain⟩, found⟩

/-- Two segments stand at the end of a list that has as many. -/
theorem exists_last_two {segments : List String} (enough : 2 ≤ segments.length) :
    ∃ literals base last, segments = literals ++ [base, last] := by
  rcases List.eq_nil_or_concat segments with rfl | ⟨front, last, rfl⟩
  · simp at enough
  rcases List.eq_nil_or_concat front with rfl | ⟨literals, base, rfl⟩
  · simp at enough
  · exact ⟨literals, base, last, by simp⟩

/-- Segments are those of a template, or there is a first fault. -/
theorem fits_or_firstFault (text : String) (segments : List String) :
    Fits segments ∨ ∃ fault, FirstFault text segments fault := by
  by_cases few : segments.length < 2
  · exact .inr ⟨_, .few few⟩
  obtain ⟨literals, base, last, rfl⟩ := exists_last_two (Nat.le_of_not_lt few)
  by_cases names : ∃ name, Names last name
  · obtain ⟨name, names⟩ := names
    by_cases special : HasSpecial base
    · exact .inr ⟨_, .parameterized names special⟩
    rcases exists_first_special literals with plain | ⟨front, segment, back, rfl, plain, found⟩
    · refine .inl (.named (List.forall_mem_append.mpr ⟨plain, ?_⟩) names)
      simpa using special
    · exact .inr ⟨_, .notPlain names special plain found⟩
  · exact .inr ⟨_, .unnamed fun name is => names ⟨name, is⟩⟩

/-! ## The check -/

/-- The segments of a text as texts. -/
theorem segmentsOf_eq_splitOn (text : String) :
    segmentsOf text =
      ((text.toList.splitOn '/').filter fun piece => !piece.isEmpty).map String.ofList := by
  rw [segmentsOf, segmentChars, Text.piecesChars_eq_splitOn]

theorem segmentChars_eq (text : String) :
    segmentChars text.toList = (segmentsOf text).map String.toList := by
  simp [segmentsOf, Function.comp_def]

theorem hasSpecial_iff (segment : String) :
    HasSpecial segment ↔ isLiteral segment.toList = false := by
  simp only [HasSpecial, specials, isLiteral, Bool.not_eq_false', List.any_eq_true, isSpecial,
    Bool.or_eq_true, beq_iff_eq, List.mem_cons, List.not_mem_nil, or_false, or_assoc]

/-- A list ends with a character and has something in front of it. -/
theorem getLast?_dropLast_iff {rest name : List Char} {closing : Char} :
    rest.getLast? = some closing ∧ rest.dropLast = name ↔ rest = name ++ [closing] := by
  constructor
  · rintro ⟨ends, rfl⟩
    obtain ⟨front, rfl⟩ := List.getLast?_eq_some_iff.mp ends
    simp
  · rintro rfl
    simp

/-- The name of a segment is what stands between its delimiters. -/
theorem delimitedName?_eq_some_iff {segment name : List Char} :
    delimitedName? segment = some name ↔
      segment = '\x7b' :: (name ++ ['\x7d']) ∨ segment = '<' :: (name ++ ['>']) := by
  cases segment with
  | nil => simp [delimitedName?]
  | cons first rest =>
    simp only [delimitedName?, List.cons.injEq, ← getLast?_dropLast_iff]
    by_cases braces : first = '\x7b' ∧ rest.getLast? = some '\x7d'
    · have notAngle : first ≠ '<' := by
        rw [braces.1]
        decide
      simp [braces.1, braces.2]
    · rw [if_neg braces]
      by_cases angles : first = '<' ∧ rest.getLast? = some '>'
      · simp [angles.1, angles.2]
      · rw [if_neg angles]
        simp only [reduceCtorEq, false_iff, not_or]
        exact ⟨fun is => braces ⟨is.1, is.2.1⟩, fun is => angles ⟨is.1, is.2.1⟩⟩

/-- A segment names something exactly if the name between its delimiters is not empty. -/
theorem names_iff (segment name : String) :
    Names segment name ↔
      name.toList ≠ [] ∧ delimitedName? segment.toList = some name.toList := by
  rw [Names, delimitedName?_eq_some_iff, ← String.toList_inj, ← String.toList_inj]
  simp

/-- The last two segments of a text, and those in front of them. -/
theorem segmentChars_of_segmentsOf {text base last : String} {literals : List String}
    (segments : segmentsOf text = literals ++ [base, last]) :
    segmentChars text.toList = literals.map String.toList ++ [base.toList, last.toList] := by
  rw [segmentChars_eq, segments]
  simp

/-- A text with fewer than two segments is refused. -/
theorem validate_of_few {text : String} (few : (segmentsOf text).length < 2) :
    validate text = .error (.tooFewSegments text) := by
  rw [segmentsOf, List.length_map] at few
  unfold validate
  dsimp only
  split
  · next last base earlier shape =>
    have lengths := congrArg List.length shape
    simp only [List.length_reverse, List.length_cons] at lengths
    omega
  · rfl

section LastTwo

variable {text base last name : String} {literals : List String}

/-- A text whose last segment names nothing is refused before any other segment is looked at. -/
theorem validate_of_unnamed (segments : segmentsOf text = literals ++ [base, last])
    (unnamed : ∀ name, ¬ Names last name) : validate text = .error (.missingIdentifier text) := by
  simp only [validate, segmentChars_of_segmentsOf segments, List.reverse_append, List.reverse_cons,
    List.reverse_nil, List.nil_append, List.cons_append]
  cases delimited : delimitedName? last.toList with
  | none => rfl
  | some inner =>
    cases inner with
    | nil => rfl
    | cons n ame =>
      refine absurd ((names_iff last (String.ofList (n :: ame))).mpr ?_) (unnamed _)
      rw [String.toList_ofList]
      exact ⟨List.cons_ne_nil n ame, delimited⟩

/-- A text whose last segment has a name is judged by its other segments, the last of them first. -/
theorem validate_of_names (segments : segmentsOf text = literals ++ [base, last])
    (names : Names last name) :
    validate text =
      if isLiteral base.toList then
        ((literals.map String.toList).find? (!isLiteral ·)).elim
          (.ok
            { text
              collection := String.ofList (text.toList.take
                ((lastOccurrence last.toList 0 none text.toList).getD text.toList.length))
              identifierSegment := last
              identifierName := name })
          fun segment => .error (.invalidLiteralSegment text (String.ofList segment))
      else .error (.baseSegmentParameterized text) := by
  obtain ⟨nonempty, delimited⟩ := (names_iff last name).mp names
  obtain ⟨n, ame, shape⟩ := List.exists_cons_of_ne_nil nonempty
  have rebuilt : String.ofList (n :: ame) = name := by rw [← shape, String.ofList_toList]
  simp only [validate, segmentChars_of_segmentsOf segments, List.reverse_append, List.reverse_cons,
    List.reverse_nil, List.nil_append, List.cons_append, delimited, shape, rebuilt,
    String.ofList_toList, List.reverse_reverse]
  cases isLiteral base.toList with
  | false => rfl
  | true =>
    cases (literals.map String.toList).find? (!isLiteral ·) with
    | none => rfl
    | some segment => rfl

/-- The template of a text that fits, cut in front of the separators behind its last segment. -/
theorem validate_of_fits (segments : segmentsOf text = literals ++ [base, last])
    (plain : ∀ segment ∈ literals ++ [base], ¬ HasSpecial segment) (names : Names last name) :
    ∃ before slashes, text.toList = before ++ last.toList ++ slashes ∧ (∀ c ∈ slashes, c = '/') ∧
      segmentChars before = (literals ++ [base]).map String.toList ∧
        validate text = .ok ⟨text, String.ofList before, last, name⟩ := by
  have literal : ∀ segment ∈ literals ++ [base], isLiteral segment.toList = true := by
    intro segment member
    have not_special := plain segment member
    rwa [hasSpecial_iff, Bool.not_eq_false] at not_special
  have parts : segmentChars text.toList =
      (literals ++ [base]).map String.toList ++ [last.toList] := by
    rw [segmentChars_of_segmentsOf segments]
    simp
  have clean : IsSegment last.toList := isSegment_of_mem (by rw [parts]; simp)
  obtain ⟨before, slashes, shape, inFront, only⟩ := segmentChars_eq_concat parts
  refine ⟨before, slashes, shape, only, inFront, ?_⟩
  have none_special : (literals.map String.toList).find? (!isLiteral ·) = none := by
    rw [List.find?_eq_none]
    rintro chars member
    obtain ⟨segment, isLiteral, rfl⟩ := List.mem_map.mp member
    simp [literal segment (List.mem_append_left _ isLiteral)]
  have cut : (lastOccurrence last.toList 0 none text.toList).getD text.toList.length =
      before.length := by
    rw [shape, List.append_assoc, lastOccurrence_segment clean only, Option.getD_some]
  rw [validate_of_names segments names, if_pos (literal base (by simp)), none_special, cut, shape,
    List.append_assoc, List.take_left]
  rfl

end LastTwo

/-- A text is refused with its first fault. -/
theorem validate_of_firstFault {text : String} {fault : StartError}
    (first : FirstFault text (segmentsOf text) fault) : validate text = .error fault := by
  generalize segments : segmentsOf text = parts at first
  cases first with
  | few few => exact validate_of_few (segments ▸ few)
  | unnamed unnamed => exact validate_of_unnamed segments unnamed
  | parameterized names special =>
    rw [validate_of_names segments names, (hasSpecial_iff _).mp special]
    rfl
  | @notPlain front back segment base last name names plainBase plainFront special =>
    have literal : isLiteral base.toList = true := by
      rwa [hasSpecial_iff, Bool.not_eq_false] at plainBase
    have found : ((front ++ segment :: back).map String.toList).find? (!isLiteral ·) =
        some segment.toList := by
      rw [List.find?_eq_some_iff_append]
      refine ⟨by simpa using (hasSpecial_iff segment).mp special, front.map String.toList,
        back.map String.toList, by simp, ?_⟩
      intro chars member
      obtain ⟨earlier, inFront, rfl⟩ := List.mem_map.mp member
      have plain := plainFront earlier inFront
      rw [hasSpecial_iff, Bool.not_eq_false] at plain
      simp [plain]
    rw [validate_of_names segments names, if_pos literal, found, Option.elim_some,
      String.ofList_toList]

/-- A text is a template exactly if its segments fit. -/
theorem exists_validate_eq_ok_iff (text : String) :
    (∃ template, validate text = .ok template) ↔ Fits (segmentsOf text) := by
  constructor
  · rintro ⟨template, valid⟩
    rcases fits_or_firstFault text (segmentsOf text) with fits | ⟨fault, first⟩
    · exact fits
    · rw [validate_of_firstFault first] at valid
      cases valid
  · intro fits
    generalize segments : segmentsOf text = parts at fits
    cases fits with
    | named plain names =>
      obtain ⟨before, slashes, _, _, _, valid⟩ := validate_of_fits segments plain names
      exact ⟨_, valid⟩

/-- A text is refused with a fault exactly if that is the first one. -/
theorem validate_eq_error_iff (text : String) (fault : StartError) :
    validate text = .error fault ↔ FirstFault text (segmentsOf text) fault := by
  refine ⟨fun refused => ?_, validate_of_firstFault⟩
  rcases fits_or_firstFault text (segmentsOf text) with fits | ⟨other, first⟩
  · obtain ⟨template, valid⟩ := (exists_validate_eq_ok_iff text).mpr fits
    rw [valid] at refused
    cases refused
  · have same := (validate_of_firstFault first).symm.trans refused
    rwa [Except.error.inj same] at first

/-! ## Separators -/

/-- A text with one more separator: in front, at the end or next to another one. -/
inductive Spaced : String → String → Prop
  | front (text : String) : Spaced text ("/" ++ text)
  | back (text : String) : Spaced text (text ++ "/")
  | doubled (before after : String) : Spaced (before ++ "/" ++ after) (before ++ "//" ++ after)

/-- Texts that become each other by adding and taking away such separators. -/
def Respaced : String → String → Prop :=
  Relation.EqvGen Spaced

@[simp] theorem segmentChars_separator (cs : List Char) :
    segmentChars ('/' :: cs) = segmentChars cs :=
  segmentChars_append_separator [] cs

/-- One more separator leaves the segments as they are. -/
theorem Spaced.segmentsOf_eq {text more : String} (spaced : Spaced text more) :
    segmentsOf more = segmentsOf text := by
  cases spaced with
  | front => simp [segmentsOf]
  | back => simp [segmentsOf, segmentChars_append_separator]
  | doubled before after =>
    simp only [segmentsOf, String.toList_append, List.append_assoc]
    change (segmentChars (before.toList ++ '/' :: '/' :: after.toList)).map _ =
      (segmentChars (before.toList ++ '/' :: after.toList)).map _
    rw [segmentChars_append_separator, segmentChars_append_separator, segmentChars_separator]

/-- Behind anything, the segments of a text can be put in their plain form. -/
theorem respaced_pathChars (front cs : List Char) :
    Respaced (String.ofList (front ++ '/' :: cs))
      (String.ofList (front ++ pathChars (segmentChars cs))) := by
  -- Strong induction, since a whole segment is taken off at once and stays as it is in `front`.
  induction size : cs.length using Nat.strongRecOn generalizing front cs with
  | ind bound ih =>
    by_cases slashed : '/' ∈ cs
    · obtain ⟨segment, rest, rfl, absent⟩ := List.eq_append_cons_of_mem slashed
      have shorter : rest.length < bound := by
        rw [← size, List.length_append, List.length_cons]
        omega
      rw [segmentChars_append_separator]
      by_cases empty : segment = []
      · subst empty
        have single : Respaced (String.ofList front ++ "//" ++ String.ofList rest)
            (String.ofList front ++ "/" ++ String.ofList rest) :=
          .symm _ _ (.rel _ _ (.doubled _ _))
        have less : String.ofList front ++ "/" ++ String.ofList rest =
            String.ofList (front ++ '/' :: rest) := by
          simp [← String.toList_inj]
        have more : String.ofList front ++ "//" ++ String.ofList rest =
            String.ofList (front ++ '/' :: '/' :: rest) := by
          simp [← String.toList_inj]
        rw [less, more] at single
        exact single.trans _ _ _ (ih rest.length shorter front rest rfl)
      · have later := ih rest.length shorter (front ++ '/' :: segment) rest rfl
        rw [segmentChars_segment ⟨empty, absent⟩, pathChars_append, pathChars_singleton]
        simpa using later
    · by_cases empty : cs = []
      · subst empty
        have dropped : Respaced (String.ofList front ++ "/") (String.ofList front) :=
          .symm _ _ (.rel _ _ (.back _))
        simpa [pathChars] using dropped
      · rw [segmentChars_segment ⟨empty, slashed⟩, pathChars_singleton]
        exact .refl _

/-- Texts have the same segments exactly if they differ in separators only. -/
theorem respaced_iff (text other : String) :
    Respaced text other ↔ segmentsOf text = segmentsOf other := by
  constructor
  · intro respaced
    induction respaced with
    | rel _ _ spaced => exact spaced.segmentsOf_eq.symm
    | refl => rfl
    | symm _ _ _ ih => exact ih.symm
    | trans _ _ _ _ _ first second => exact first.trans second
  · intro same
    have plain (text : String) : Respaced text
        (String.ofList (pathChars (segmentChars text.toList))) := by
      have led : Respaced text ("/" ++ text) := .rel _ _ (.front text)
      have rest := respaced_pathChars [] text.toList
      have shape : String.ofList ([] ++ '/' :: text.toList) = "/" ++ text := by simp
      rw [shape] at rest
      exact led.trans _ _ _ rest
    have chars : segmentChars text.toList = segmentChars other.toList := by
      rw [segmentChars_eq, segmentChars_eq, same]
    exact (plain text).trans _ _ _ (chars ▸ (plain other).symm)

/-- What is wrong with a text is wrong with every text of the same segments. -/
theorem FirstFault.about {text : String} {segments : List String} {fault : StartError}
    (first : FirstFault text segments fault) (other : String) :
    FirstFault other segments (fault.about other) := by
  cases first with
  | few few => exact .few few
  | unnamed unnamed => exact .unnamed unnamed
  | parameterized names special => exact .parameterized names special
  | notPlain names plainBase plainFront special => exact .notPlain names plainBase plainFront special

/-- Texts with the same segments are both templates or have the same fault. -/
theorem validate_of_segmentsOf_eq {text other : String}
    (same : segmentsOf text = segmentsOf other) :
    ((∃ template, validate text = .ok template) ↔ ∃ template, validate other = .ok template) ∧
      ∀ fault, validate text = .error fault → validate other = .error (fault.about other) := by
  constructor
  · rw [exists_validate_eq_ok_iff, exists_validate_eq_ok_iff, same]
  · intro fault refused
    have first := (validate_eq_error_iff text fault).mp refused
    rw [same] at first
    exact validate_of_firstFault (first.about other)

/-- A text is a template exactly if its pieces between separators, without the empty ones, are those of
a template, and is refused with the first thing that is wrong with them. Adding and taking away
separators in front, at the end and next to others reaches all texts with these pieces, and changes
neither whether the text is a template nor what is wrong with it. -/
theorem template_grammar (text : String) :
    segmentsOf text =
        ((text.toList.splitOn '/').filter fun piece => !piece.isEmpty).map String.ofList ∧
      ((∃ template, validate text = .ok template) ↔ Fits (segmentsOf text)) ∧
      (∀ fault, validate text = .error fault ↔ FirstFault text (segmentsOf text) fault) ∧
      ∀ other, (Respaced text other ↔ segmentsOf text = segmentsOf other) ∧
        (Respaced text other →
          ((∃ template, validate text = .ok template) ↔
            ∃ template, validate other = .ok template) ∧
          ∀ fault, validate text = .error fault → validate other = .error (fault.about other)) :=
  ⟨segmentsOf_eq_splitOn text, exists_validate_eq_ok_iff text, validate_eq_error_iff text,
    fun other => ⟨respaced_iff text other, fun respaced =>
      validate_of_segmentsOf_eq ((respaced_iff text other).mp respaced)⟩⟩

/-- A text with two faults and separators to spare is refused for the segment in front of its
identifier, and so is the same text without these separators. -/
theorem faulty_base_told_first :
    let text := "location*//:v2/\x7bid\x7d/"
    let other := "/location*/:v2/\x7bid\x7d"
    Respaced text other ∧ FirstFault text (segmentsOf text) (.baseSegmentParameterized text) ∧
      validate other = .error (.baseSegmentParameterized other) := by
  intro text other
  obtain ⟨_, _, refused, alike⟩ := template_grammar text
  have respaced : Respaced text other := (alike other).1.mpr (by decide +kernel)
  have first : validate text = .error (.baseSegmentParameterized text) := by decide +kernel
  exact ⟨respaced, (refused _).mp first, ((alike other).2 respaced).2 _ first⟩

end Resource.Template

end Sluice
