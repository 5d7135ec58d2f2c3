import Sluice.Proofs.Resource.Segments
import Sluice.Proofs.Text.Trimming
import Sluice.Text.Lower

/-!
# Parts of texts

What trimming and a change of letter case do to the parts of a text. A mark at which texts are cut is
neither white space nor a letter; so the parts of a trimmed text are those of the text up to trimming,
`map_piecesChars_trimChars`, and the parts of a text in small letters are those of the text in small
letters, `piecesChars_map_toLower`.
-/

namespace Sluice.Text

/-! ## Trimming -/

/-- White space in front is trimmed up to the first other character. -/
theorem trimStartChars_append_cons {mark : Char} (shown : isBlank mark = false)
    (front behind : List Char) :
    trimStartChars (front ++ mark :: behind) = trimStartChars front ++ mark :: behind := by
  rw [trimStartChars, trimStartChars, List.dropWhile_append]
  split
  · next empty =>
    rw [List.isEmpty_iff.mp empty, List.dropWhile_cons_of_neg (by simp [shown]), List.nil_append]
  · rfl

/-- White space at the end is trimmed back to the last other character. -/
theorem trimEndChars_append_cons {mark : Char} (shown : isBlank mark = false)
    (front behind : List Char) :
    trimEndChars (front ++ mark :: behind) = front ++ mark :: trimEndChars behind := by
  have mirrored := trimStartChars_append_cons shown behind.reverse front.reverse
  simp only [trimStartChars] at mirrored
  simp [trimEndChars, mirrored]

/-- Around a character that is not white space each side is trimmed for itself. -/
theorem trimChars_append_cons {mark : Char} (shown : isBlank mark = false)
    (front behind : List Char) :
    trimChars (front ++ mark :: behind) = trimStartChars front ++ mark :: trimEndChars behind := by
  rw [trimChars, trimStartChars_append_cons shown, trimEndChars_append_cons shown]

/-- Nothing is added by trimming. -/
theorem trimStartChars_subset (cs : List Char) : trimStartChars cs ⊆ cs :=
  (List.dropWhile_sublist _).subset

theorem trimEndChars_subset (cs : List Char) : trimEndChars cs ⊆ cs := by
  have front : trimEndChars cs <+: cs := trimEndChars_prefix cs
  exact front.subset

theorem trimChars_subset (cs : List Char) : trimChars cs ⊆ cs :=
  fun _ member => trimStartChars_subset cs (trimEndChars_subset _ member)

/-- Either end may be trimmed first. -/
theorem trimStartChars_trimEndChars (cs : List Char) :
    trimStartChars (trimEndChars cs) = trimChars cs := by
  obtain ⟨gap, blank, whole⟩ := exists_blank_trimStartChars cs
  have kept := isBlank_head?_trimStartChars cs
  rw [trimChars]
  generalize trimStartChars cs = inner at whole kept
  subst whole
  cases inner with
  | nil =>
    rw [List.append_nil]
    exact List.dropWhile_eq_nil_iff.mpr fun c member => blank c (trimEndChars_subset gap member)
  | cons c rest =>
    have shown : isBlank c = false := kept c rfl
    rw [trimEndChars_append_cons shown, trimStartChars_append_of_blank blank]
    have tidy := trimEndChars_append_cons shown [] rest
    rw [List.nil_append, List.nil_append] at tidy
    rw [tidy]
    exact trimStartChars_of_first (by rintro _ ⟨⟩; exact shown)

theorem trimChars_trimChars (cs : List Char) : trimChars (trimChars cs) = trimChars cs :=
  trimChars_of_isTidy (isTidy_trimChars cs)

theorem trimChars_trimStartChars (cs : List Char) : trimChars (trimStartChars cs) = trimChars cs := by
  rw [trimChars, trimStartChars_of_first (isBlank_head?_trimStartChars cs), trimChars]

theorem trimChars_trimEndChars (cs : List Char) : trimChars (trimEndChars cs) = trimChars cs := by
  rw [trimChars, trimStartChars_trimEndChars, trimEndChars_of_last (isTidy_trimChars cs).last]

/-! ## Cutting -/

/-- A text is cut at its first separator. -/
theorem cutChars_append_cons {separator : Char} {before : List Char} (absent : separator ∉ before)
    (after : List Char) :
    cutChars separator (before ++ separator :: after) = (before, some after) := by
  have kept : ∀ c ∈ before, decide (c ≠ separator) = true := by
    rintro c member
    exact decide_eq_true fun same => absent (same ▸ member)
  simp only [cutChars, List.takeWhile_append_of_pos kept, List.dropWhile_append_of_pos kept]
  simp

/-- A text without a separator is not cut. -/
theorem cutChars_of_not_mem {separator : Char} {cs : List Char} (absent : separator ∉ cs) :
    cutChars separator cs = (cs, none) := by
  have kept : ∀ c ∈ cs, decide (c ≠ separator) = true := by
    rintro c member
    exact decide_eq_true fun same => absent (same ▸ member)
  simp only [cutChars, List.takeWhile_eq_self_iff.mpr kept, List.dropWhile_eq_nil_iff.mpr kept]
  rfl

/-- A separator parts the pieces in front of it from those behind it. -/
theorem piecesChars_append_cons (separator : Char) (front behind : List Char) :
    piecesChars separator (front ++ separator :: behind) =
      piecesChars separator front ++ piecesChars separator behind := by
  rw [piecesChars_eq_splitOn, piecesChars_eq_splitOn, piecesChars_eq_splitOn,
    List.splitOn_append_cons_self]

/-- A text without a separator is its only piece. -/
theorem piecesChars_of_not_mem {separator : Char} {cs : List Char} (absent : separator ∉ cs) :
    piecesChars separator cs = [cs] := by
  rw [piecesChars_eq_splitOn, List.splitOn_eq_singleton absent]

/-- A comma parts the items in front of it from those behind it. -/
theorem items_append_comma (front rest : List Char) :
    items ',' (String.ofList (front ++ ',' :: rest)) =
      items ',' (String.ofList front) ++ items ',' (String.ofList rest) := by
  simp only [items, pieces, String.toList_ofList, piecesChars_append_cons, List.map_append,
    List.filterMap_append]

/-- A comma between two lists makes one list of them. -/
theorem items_comma (first second : String) :
    items ',' (first ++ "," ++ second) = items ',' first ++ items ',' second := by
  have joined : first ++ "," ++ second =
      String.ofList (first.toList ++ ',' :: second.toList) := by
    rw [← String.toList_inj, String.toList_ofList, String.toList_append, String.toList_append,
      List.append_assoc]
    rfl
  rw [joined, items_append_comma, String.ofList_toList, String.ofList_toList]

/-- What is trimmed in front of a text is trimmed of its first piece. -/
theorem map_piecesChars_trimStartChars {separator : Char} (shown : isBlank separator = false)
    (cs : List Char) :
    (piecesChars separator (trimStartChars cs)).map trimChars =
      (piecesChars separator cs).map trimChars := by
  by_cases member : separator ∈ cs
  · obtain ⟨front, behind, rfl, absent⟩ := List.eq_append_cons_of_mem member
    have inner : separator ∉ trimStartChars front := mt (@trimStartChars_subset front _) absent
    rw [trimStartChars_append_cons shown, piecesChars_append_cons, piecesChars_append_cons,
      piecesChars_of_not_mem absent, piecesChars_of_not_mem inner, List.map_append, List.map_append,
      List.map_singleton, List.map_singleton, trimChars_trimStartChars]
  · have inner : separator ∉ trimStartChars cs := mt (@trimStartChars_subset cs _) member
    rw [piecesChars_of_not_mem member, piecesChars_of_not_mem inner, List.map_singleton,
      List.map_singleton, trimChars_trimStartChars]

/-- What is trimmed at the end of a text is trimmed of its last piece. -/
theorem map_piecesChars_trimEndChars {separator : Char} (shown : isBlank separator = false)
    (cs : List Char) :
    (piecesChars separator (trimEndChars cs)).map trimChars =
      (piecesChars separator cs).map trimChars := by
  by_cases member : separator ∈ cs
  · obtain ⟨front, behind, rfl, absent⟩ := exists_last_separator member
    have inner : separator ∉ trimEndChars behind := mt (@trimEndChars_subset behind _) absent
    rw [trimEndChars_append_cons shown, piecesChars_append_cons, piecesChars_append_cons,
      piecesChars_of_not_mem absent, piecesChars_of_not_mem inner, List.map_append,
      List.map_append, List.map_singleton, List.map_singleton, trimChars_trimEndChars]
  · have inner : separator ∉ trimEndChars cs := mt (@trimEndChars_subset cs _) member
    rw [piecesChars_of_not_mem member, piecesChars_of_not_mem inner, List.map_singleton,
      List.map_singleton, trimChars_trimEndChars]

/-- The pieces of a trimmed text are those of the text up to trimming. -/
theorem map_piecesChars_trimChars {separator : Char} (shown : isBlank separator = false)
    (cs : List Char) :
    (piecesChars separator (trimChars cs)).map trimChars =
      (piecesChars separator cs).map trimChars := by
  rw [trimChars, map_piecesChars_trimEndChars shown, map_piecesChars_trimStartChars shown]

/-- A text is blank exactly if it is one piece and that is blank. -/
theorem trimChars_eq_nil_iff_of_pieces {separator : Char} (shown : isBlank separator = false)
    {cs first : List Char} {others : List (List Char)}
    (shape : piecesChars separator cs = first :: others) :
    trimChars cs = [] ↔ trimChars first = [] ∧ others = [] := by
  have whole := intercalate_piecesChars separator cs
  rw [shape] at whole
  constructor
  · intro blank
    have same := map_piecesChars_trimChars shown cs
    rw [blank, shape, piecesChars_nil, List.map_singleton, List.map_cons] at same
    obtain ⟨isFirst, none⟩ := List.cons_eq_cons.mp same
    exact ⟨isFirst.symm, List.map_eq_nil_iff.mp none.symm⟩
  · rintro ⟨blank, rfl⟩
    rwa [← whole, List.intercalate_singleton]

/-! ## Letters -/

/-- Capitals become small letters, and nothing else changes. -/
theorem toNat_toLower (c : Char) :
    c.toLower.toNat = if 65 ≤ c.toNat ∧ c.toNat ≤ 90 then c.toNat + 32 else c.toNat := by
  have capital : (c.val ≥ 'A'.val ∧ c.val ≤ 'Z'.val) ↔ 65 ≤ c.toNat ∧ c.toNat ≤ 90 := Iff.rfl
  unfold Char.toLower
  split
  · next upper =>
    rw [if_pos (capital.mp upper)]
    have within := capital.mp upper
    have sum : (c.val + 32).toNat = (c.toNat + 32) % 2 ^ 32 := UInt32.toNat_add _ _
    change (c.val + 32).toNat = c.toNat + 32
    omega
  · next other => rw [if_neg (mt capital.mpr other)]

/-- What is no capital stays as it is. -/
theorem toLower_of_toNat {c : Char} (plain : ¬ (65 ≤ c.toNat ∧ c.toNat ≤ 90)) : c.toLower = c := by
  rw [← Char.toNat_inj, toNat_toLower, if_neg plain]

theorem toLower_toLower (c : Char) : c.toLower.toLower = c.toLower := by
  refine toLower_of_toNat ?_
  rw [toNat_toLower]
  split <;> omega

/-- The letters are those of ASCII. -/
theorem isAlpha_eq_true_iff (c : Char) :
    c.isAlpha = true ↔
      (65 ≤ c.toNat ∧ c.toNat ≤ 90) ∨ (97 ≤ c.toNat ∧ c.toNat ≤ 122) := by
  have upper : c.isUpper = true ↔ 65 ≤ c.toNat ∧ c.toNat ≤ 90 := decide_eq_true_iff
  have lower : c.isLower = true ↔ 97 ≤ c.toNat ∧ c.toNat ≤ 122 := by
    rw [← decide_eq_true_iff (p := 97 ≤ c.toNat), ← decide_eq_true_iff (p := c.toNat ≤ 122),
      ← Bool.and_eq_true]
    rfl
  rw [← upper, ← lower, ← Bool.or_eq_true]
  rfl

/-- A character that is no letter is the small form of itself only. -/
theorem toLower_eq_iff {c mark : Char} (plain : mark.isAlpha = false) :
    c.toLower = mark ↔ c = mark := by
  have letters := isAlpha_eq_true_iff mark
  rw [plain, Bool.false_eq_true, false_iff] at letters
  rw [← Char.toNat_inj, ← Char.toNat_inj, toNat_toLower]
  split <;> omega

/-- So it is with characters none of which is a letter. -/
theorem map_toLower_eq_iff {cs marks : List Char} (plain : ∀ c ∈ marks, c.isAlpha = false) :
    cs.map Char.toLower = marks ↔ cs = marks := by
  induction marks generalizing cs with
  | nil => exact List.map_eq_nil_iff
  | cons mark rest ih =>
    cases cs with
    | nil => simp
    | cons c later =>
      rw [List.map_cons, List.cons_eq_cons, List.cons_eq_cons,
        toLower_eq_iff (plain mark List.mem_cons_self),
        ih fun other member => plain other (List.mem_cons_of_mem mark member)]

theorem isBlank_toLower (c : Char) : isBlank c.toLower = isBlank c := by
  by_cases capital : 65 ≤ c.toNat ∧ c.toNat ≤ 90
  · have shown (code : Nat) (within : 65 ≤ code ∧ code ≤ 122) (d : Char) (same : d.toNat = code) :
        isBlank d = false := by
      rw [← Bool.not_eq_true]
      simp only [isBlank, Bool.or_eq_true, Bool.and_eq_true, decide_eq_true_eq, beq_iff_eq, same]
      omega
    rw [shown (c.toNat + 32) (by omega) c.toLower (by rw [toNat_toLower, if_pos capital]),
      shown c.toNat (by omega) c rfl]
  · rw [toLower_of_toNat capital]

/-- A text in small letters stays as it is. -/
theorem map_toLower_map_toLower (cs : List Char) :
    (cs.map Char.toLower).map Char.toLower = cs.map Char.toLower := by
  rw [List.map_map]
  exact List.map_congr_left fun c _ => toLower_toLower c

/-- A letter of ASCII and its capital have one small form. -/
theorem lowerChar_toLower (c : Char) : lowerChar c.toLower = lowerChar c := by
  by_cases ascii : c.toNat < 128
  · have kept : c.toLower.toNat < 128 := by
      rw [toNat_toLower]
      split <;> omega
    rw [lowerChar, lowerChar, if_pos kept, if_pos ascii, toLower_toLower]
  · rw [toLower_of_toNat (by omega)]

/-- Texts that differ in the case of letters of ASCII alone have one small form. -/
theorem lower_eq_of_map_toLower {text other : String}
    (alike : text.map Char.toLower = other.map Char.toLower) : lower text = lower other := by
  have lowered (text : String) : lower (text.map Char.toLower) = lower text := by
    simp only [lower, String.toList_map, List.flatMap_map, lowerChar_toLower]
  rw [← lowered text, alike, lowered]

/-- Letter case does not matter for trimming. -/
theorem trimChars_map_toLower (cs : List Char) :
    trimChars (cs.map Char.toLower) = (trimChars cs).map Char.toLower := by
  have alike : isBlank ∘ Char.toLower = isBlank := funext isBlank_toLower
  simp only [trimChars, trimEndChars, trimStartChars, List.dropWhile_map, ← List.map_reverse, alike]

/-- Letter case does not matter for cutting. -/
theorem piecesChars_map_toLower {separator : Char} (plain : separator.isAlpha = false)
    (cs : List Char) :
    piecesChars separator (cs.map Char.toLower) =
      (piecesChars separator cs).map (List.map Char.toLower) := by
  induction cs with
  | nil => rfl
  | cons c rest ih =>
    rw [List.map_cons]
    by_cases same : c = separator
    · rw [(toLower_eq_iff plain).mpr same, same, piecesChars_separator, piecesChars_separator, ih]
      rfl
    · obtain ⟨first, others, shape⟩ :=
        List.exists_cons_of_ne_nil (piecesChars_ne_nil separator rest)
      have different : c.toLower ≠ separator := mt (toLower_eq_iff plain).mp same
      rw [piecesChars_cons_of_ne same shape,
        piecesChars_cons_of_ne different (ih.trans (by rw [shape, List.map_cons]))]
      rfl

end Sluice.Text
