import Sluice.Proofs.Resource.TemplateGrammar

/-!
# The parts of a template

A template is cut where its identifier segment occurs last. `Template.parts_of_validate` says that this
is the right place: the text is the collection, the identifier segment and separators, and nothing of
the identifier is left in the collection or of the collection in the identifier. Everything else that a
template tells, its paths in their normal form and its routes, depends on its segments only
(`Template.sameForm_of_segmentsOf_eq`), so the path of an item is again a template and one of the same
form.
-/

namespace Sluice.Resource.Template

/-! ## The cut -/

/-- Separators are no segments. -/
theorem segmentChars_of_separators {slashes : List Char} (only : ∀ c ∈ slashes, c = '/') :
    segmentChars slashes = [] := by
  induction slashes with
  | nil => rfl
  | cons c rest ih =>
    obtain rfl := only c List.mem_cons_self
    rw [segmentChars_separator]
    exact ih fun other member => only other (List.mem_cons_of_mem _ member)

/-- Separators at the end leave the segments as they are. -/
theorem segmentChars_append_of_separators (cs : List Char) {slashes : List Char}
    (only : ∀ c ∈ slashes, c = '/') : segmentChars (cs ++ slashes) = segmentChars cs := by
  cases slashes with
  | nil => rw [List.append_nil]
  | cons c rest =>
    obtain rfl := only c List.mem_cons_self
    rw [segmentChars_append_separator,
      segmentChars_of_separators fun other member => only other (List.mem_cons_of_mem _ member),
      List.append_nil]

/-- What stands in front of the last segment ends with a separator if there is a segment in it. -/
theorem exists_separator_before {before last slashes : List Char} {earlier : List (List Char)}
    (clean : IsSegment last) (only : ∀ c ∈ slashes, c = '/') (based : earlier ≠ [])
    (segments : segmentChars (before ++ last ++ slashes) = earlier ++ [last]) :
    ∃ front, before = front ++ ['/'] := by
  rw [segmentChars_append_of_separators _ only] at segments
  by_cases slashed : '/' ∈ before
  · obtain ⟨front, tail, rfl, absent⟩ := Text.exists_last_separator slashed
    have whole : IsSegment (tail ++ last) :=
      ⟨by simp [clean.1], by simp [absent, clean.2]⟩
    rw [List.append_assoc, List.cons_append, segmentChars_append_separator,
      segmentChars_segment whole] at segments
    -- What stands between the separator and the segment would belong to the segment.
    have same := List.singleton_inj.mp (List.append_inj' segments rfl).2
    obtain rfl : tail = [] := List.append_left_eq_self.mp same
    exact ⟨front, rfl⟩
  · have whole : IsSegment (before ++ last) :=
      ⟨by simp [clean.1], by simp [slashed, clean.2]⟩
    rw [segmentChars_segment whole, ← List.nil_append [before ++ last]] at segments
    exact absurd (List.append_inj' segments rfl).1.symm based

/-! ## Parts -/

/-- How a template is put together, and what its paths are made of. -/
structure Parts (template : Template) : Prop where
  /-- Nothing but separators stands behind the identifier segment. -/
  text : ∃ count, template.text = template.collection ++ template.identifierSegment ++
    String.ofList (List.replicate count '/')
  /-- The collection ends with a separator. -/
  collection : ∃ front, template.collection = front ++ "/"
  /-- The collection has all segments but the last one. -/
  literals : segmentsOf template.collection = template.segments.dropLast
  /-- The last segment is that of the identifier. -/
  identifier : template.segments.getLast? = some template.identifierSegment
  routeItem : template.routeItem = template.routeCollection ++ "/:" ++ template.identifierName
  collectionPath : template.collectionPath = template.routeCollection ++ "/"
  itemPath : template.itemPath = template.collectionPath ++ template.identifierSegment

namespace Sound

variable {template : Template}

/-- The segments of a checked template are its literal ones and that of the identifier. -/
theorem segments_eq (sound : template.Sound) :
    template.segments =
      template.literalChars.map String.ofList ++ [template.identifierSegment] := by
  rw [Template.segments, segmentsOf, sound.segments]
  simp

/-- The path of an item is that of its collection with the identifier segment behind it. -/
theorem toList_itemPath (sound : template.Sound) :
    template.itemPath.toList = template.base ++ '/' :: template.identifierSegment.toList := by
  rw [itemPath, sound.segments_eq, toList_joined (by simp)]
  simp [base, Function.comp_def]

/-- The path of an item has the segments of the template. -/
theorem segmentsOf_itemPath (sound : template.Sound) :
    segmentsOf template.itemPath = template.segments := by
  have path : template.itemPath.toList =
      pathChars (template.literalChars ++ [template.identifierSegment.toList]) := by
    rw [sound.toList_itemPath, pathChars_append, pathChars_singleton, base]
  have clean : ∀ segment ∈ template.literalChars ++ [template.identifierSegment.toList],
      IsSegment segment := by
    rw [← sound.segments]
    exact fun _ => isSegment_of_mem
  rw [segmentsOf, path, segmentChars_path clean, ← sound.segments]
  rfl

end Sound

/-- A template that passes the check is put together from its parts. -/
theorem parts_of_validate {text : String} {template : Template}
    (valid : validate text = .ok template) : template.Parts := by
  obtain ⟨same, sound⟩ := sound_of_validate valid
  obtain ⟨before, slashes, shape, only, inFront, again⟩ :
      ∃ before slashes, text.toList = before ++ template.identifierSegment.toList ++ slashes ∧
        (∀ c ∈ slashes, c = '/') ∧ segmentChars before = template.literalChars ∧
          template.collection = String.ofList before := by
    have fits := (exists_validate_eq_ok_iff text).mp ⟨template, valid⟩
    generalize segments : segmentsOf text = parts at fits
    cases fits with
    | named plain names =>
      obtain ⟨before, slashes, shape, only, inFront, again⟩ := validate_of_fits segments plain names
      obtain rfl := Except.ok.inj (again.symm.trans valid)
      refine ⟨before, slashes, shape, only, ?_, rfl⟩
      rw [← sound.collection, String.toList_ofList]
  have clean : IsSegment template.identifierSegment.toList :=
    isSegment_of_mem (by rw [sound.segments]; simp)
  have ends : ∃ front, before = front ++ ['/'] :=
    exists_separator_before clean only sound.based (by rw [← shape, ← same, sound.segments])
  constructor
  case text =>
    refine ⟨slashes.length, ?_⟩
    rw [same, again, ← String.toList_inj, shape, ← List.eq_replicate_of_mem only]
    simp
  case collection =>
    obtain ⟨front, rfl⟩ := ends
    exact ⟨String.ofList front, by rw [again]; simp⟩
  case literals =>
    rw [segmentsOf, sound.collection, sound.segments_eq, List.dropLast_concat]
  case identifier =>
    rw [sound.segments_eq, List.getLast?_concat]
  case routeItem =>
    rw [← String.toList_inj, sound.toList_routeItem]
    simp [sound.toList_routeCollection]
  case collectionPath => rfl
  case itemPath =>
    rw [← String.toList_inj, sound.toList_itemPath, collectionPath]
    simp [sound.toList_routeCollection]

/-! ## Forms -/

/-- Templates that say the same of segments, paths and routes. -/
structure SameForm (template other : Template) : Prop where
  identifierName : template.identifierName = other.identifierName
  identifierSegment : template.identifierSegment = other.identifierSegment
  segments : template.segments = other.segments
  itemPath : template.itemPath = other.itemPath
  collectionPath : template.collectionPath = other.collectionPath
  routeItem : template.routeItem = other.routeItem
  routeCollection : template.routeCollection = other.routeCollection

/-- Checked templates with the same segments have the same form. -/
theorem sameForm_of_segmentsOf_eq {text other : String} {template again : Template}
    (valid : validate text = .ok template) (validOther : validate other = .ok again)
    (same : segmentsOf text = segmentsOf other) : template.SameForm again := by
  obtain ⟨rfl, sound⟩ := sound_of_validate valid
  obtain ⟨rfl, soundOther⟩ := sound_of_validate validOther
  have parts := parts_of_validate valid
  have partsOther := parts_of_validate validOther
  have segments : template.segments = again.segments := same
  have identifierSegment : template.identifierSegment = again.identifierSegment := by
    have last := parts.identifier
    rw [segments, partsOther.identifier] at last
    exact (Option.some.inj last).symm
  have identifierName : template.identifierName = again.identifierName := by
    have delimited := sound.delimited
    rw [identifierSegment, soundOther.delimited] at delimited
    exact String.toList_inj.mp (Option.some.inj delimited).symm
  have routeCollection : template.routeCollection = again.routeCollection := by
    rw [Template.routeCollection, Template.routeCollection, parts.literals, partsOther.literals,
      segments]
  constructor
  case identifierName => exact identifierName
  case identifierSegment => exact identifierSegment
  case segments => exact segments
  case itemPath => rw [itemPath, itemPath, segments]
  case collectionPath => rw [collectionPath, collectionPath, routeCollection]
  case routeItem => rw [parts.routeItem, partsOther.routeItem, routeCollection, identifierName]
  case routeCollection => exact routeCollection

/-- A template is put together from its parts; the path of an item, which is its normal form, is a
template of the same form, and so is every template with the same segments. -/
theorem template_normal_form {text : String} {template : Template}
    (valid : validate text = .ok template) :
    template.text = text ∧ template.Parts ∧
      (∃ normal, validate template.itemPath = .ok normal ∧ normal.SameForm template) ∧
      ∀ other again, validate other = .ok again → segmentsOf other = segmentsOf text →
        again.SameForm template := by
  obtain ⟨same, sound⟩ := sound_of_validate valid
  have segments : segmentsOf template.itemPath = segmentsOf text := by
    rw [sound.segmentsOf_itemPath, Template.segments, same]
  obtain ⟨normal, validNormal⟩ :=
    (validate_of_segmentsOf_eq segments).1.mpr ⟨template, valid⟩
  exact ⟨same, parts_of_validate valid,
    ⟨normal, validNormal, sameForm_of_segmentsOf_eq validNormal valid segments⟩,
    fun _ _ validOther sameSegments => sameForm_of_segmentsOf_eq validOther valid sameSegments⟩

/-- A template whose identifier holds brackets of its own, with separators to spare, and another one
with the same segments. -/
theorem bracketed_normal_form :
    let text := "a//b/\x7b\x7ba\x7db\x7d//"
    let template : Template :=
      ⟨text, "a//b/", "\x7b\x7ba\x7db\x7d", "\x7ba\x7db"⟩
    let other := "/a/b//\x7b\x7ba\x7db\x7d"
    let again : Template := ⟨other, "/a/b//", "\x7b\x7ba\x7db\x7d", "\x7ba\x7db"⟩
    validate text = .ok template ∧ template.Parts ∧
      (∃ normal, validate "/a/b/\x7b\x7ba\x7db\x7d" = .ok normal ∧ normal.SameForm template) ∧
      validate other = .ok again ∧ again.SameForm template := by
  intro text template other again
  have valid : validate text = .ok template := by decide +kernel
  have validOther : validate other = .ok again := by decide +kernel
  have segments : segmentsOf other = segmentsOf text := by decide +kernel
  have path : template.itemPath = "/a/b/\x7b\x7ba\x7db\x7d" := by decide +kernel
  obtain ⟨_, parts, normal, same⟩ := template_normal_form valid
  exact ⟨valid, parts, path ▸ normal, validOther, same other again validOther segments⟩

end Sluice.Resource.Template
