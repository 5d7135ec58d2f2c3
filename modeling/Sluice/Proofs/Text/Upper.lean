import Mathlib.Data.List.Basic
import Mathlib.Tactic.Common
import Sluice.Text.Upper

/-!
# Capital forms are their own capital forms

Upper case is settled after one application: every character that stands in a capital form is its own
capital form. This is a property of the table, and it is one of two lists of codes: none that has a
capital form of its own is among the codes of capitals. The lists are long, so they are compared as
two numbers whose bits stand for codes.

A mark that is in neither list stands in a capital form exactly where it stands in the text, so a text
is cut at it before or after the change to capitals, `takeWhile_upperChars` and `dropWhile_upperChars`.
-/

namespace Sluice.Text

/-! ## Lists of codes as bits -/

/-- The number whose bits are at some places. -/
def bitsAt (places : List Nat) : Nat :=
  places.foldr (fun place bits => bits ||| 1 <<< place) 0

theorem testBit_bitsAt (places : List Nat) (place : Nat) :
    (bitsAt places).testBit place = true ↔ place ∈ places := by
  induction places with
  | nil => simp [bitsAt]
  | cons first rest ih =>
    have split : bitsAt (first :: rest) = bitsAt rest ||| 2 ^ first := by
      simp only [bitsAt, List.foldr_cons, Nat.one_shiftLeft]
    rw [split, Nat.testBit_or, Bool.or_eq_true, ih, Nat.testBit_two_pow, decide_eq_true_eq,
      List.mem_cons]
    constructor
    · rintro (later | same)
      · exact .inr later
      · exact .inl same.symm
    · rintro (same | later)
      · exact .inr same.symm
      · exact .inl later

/-- Lists are disjoint if their numbers share no bit. -/
theorem disjoint_of_bitsAt {first second : List Nat} (apart : bitsAt first &&& bitsAt second = 0) :
    first.Disjoint second := by
  intro place inFirst inSecond
  have shared : (bitsAt first &&& bitsAt second).testBit place = true := by
    rw [Nat.testBit_and, (testBit_bitsAt first place).mpr inFirst,
      (testBit_bitsAt second place).mpr inSecond, Bool.and_self]
  rw [apart, Nat.zero_testBit] at shared
  cases shared

/-! ## The codes of the table -/

namespace CaseRun

/-- The code of the counterpart of a code in a run. -/
def target (run : CaseRun) (code : Nat) : Nat :=
  Int.toNat (code + run.shift)

/-- The codes of a run. -/
def codes (run : CaseRun) : List Nat :=
  (List.range ((run.last - run.first) / run.step + 1)).map (run.first + run.step * ·)

/-- Whether the counterparts in a run are characters and no surrogates. -/
def lands (run : CaseRun) : Bool :=
  Nat.blt (run.target run.last) 0xd800 ||
    Nat.blt 0xdfff (run.target run.first) && Nat.blt (run.target run.last) 0x110000

theorem covers_eq_true_iff (run : CaseRun) (code : Nat) :
    run.covers code = true ↔
      run.first ≤ code ∧ code ≤ run.last ∧ (code - run.first) % run.step = 0 := by
  simp [covers, and_assoc]

/-- A run covers its codes only. -/
theorem mem_codes {run : CaseRun} {code : Nat} (covered : run.covers code = true) :
    code ∈ run.codes := by
  obtain ⟨least, greatest, distance⟩ := (run.covers_eq_true_iff code).mp covered
  refine List.mem_map.mpr ⟨(code - run.first) / run.step, List.mem_range.mpr ?_, ?_⟩
  · have within : (code - run.first) / run.step ≤ (run.last - run.first) / run.step :=
      Nat.div_le_div_right (by omega)
    omega
  · have whole := Nat.mul_div_cancel' (Nat.dvd_of_mod_eq_zero distance)
    omega

/-- In a run that lands, every counterpart is a character: it lies between those of the ends. -/
theorem target_isValidChar {run : CaseRun} (lands : run.lands = true) {code : Nat}
    (covered : run.covers code = true) : (run.target code).isValidChar := by
  obtain ⟨least, greatest, _⟩ := (run.covers_eq_true_iff code).mp covered
  have low : run.target run.first ≤ run.target code := by
    simp only [target]
    omega
  have high : run.target code ≤ run.target run.last := by
    simp only [target]
    omega
  simp only [CaseRun.lands, Bool.or_eq_true, Bool.and_eq_true, Nat.blt_eq] at lands
  simp only [Nat.isValidChar]
  omega

end CaseRun

/-- The small letters of ASCII with their distance from the capitals. -/
def asciiRun : CaseRun := ⟨0x61, 0x7a, 1, -0x20⟩

/-- The codes of all characters with a capital form of their own. -/
def smallCodes : List Nat :=
  (asciiRun :: upperRuns).flatMap CaseRun.codes ++ upperExpansions.map (·.1)

/-- The codes of all characters in capital forms beyond ASCII. -/
def capitalCodes : List Nat :=
  (upperRuns.flatMap fun run => run.codes.map run.target) ++ upperExpansions.flatMap (·.2)

/-- The codes of all characters in capital forms that are not the character itself. -/
def allCapitalCodes : List Nat :=
  asciiRun.codes.map asciiRun.target ++ capitalCodes

/-- No code of a capital has a capital form of its own. -/
theorem smallCodes_disjoint : smallCodes.Disjoint allCapitalCodes :=
  disjoint_of_bitsAt (by decide +kernel)

/-- The counterparts in all runs are characters. -/
theorem upperRuns_land : upperRuns.all CaseRun.lands = true := by
  decide +kernel

/-- The expansions hold characters. -/
theorem isValidChar_expanded :
    ∀ entry ∈ upperExpansions, ∀ code ∈ entry.2, code.isValidChar := by
  decide +kernel

/-- Of ASCII only small letters have other capitals. -/
theorem toUpper_ascii : ∀ code < 128,
    (code ∈ asciiRun.codes → (Char.ofNat code).toUpper.toNat = asciiRun.target code) ∧
      (code ∉ asciiRun.codes → (Char.ofNat code).toUpper = Char.ofNat code) := by
  decide +kernel

/-! ## Characters -/

/-- A character that has no capital form of its own is that itself. -/
theorem upperChar_of_not_small {c : Char} (settled : c.toNat ∉ smallCodes) : upperChar c = [c] := by
  by_cases ascii : c.toNat < 128
  · have notLetter : c.toNat ∉ asciiRun.codes := by
      intro isLetter
      exact settled (List.mem_append_left _
        (List.mem_flatMap.mpr ⟨asciiRun, List.mem_cons_self, isLetter⟩))
    have same := (toUpper_ascii c.toNat ascii).2 notLetter
    rw [Char.ofNat_toNat] at same
    simp only [upperChar, if_pos ascii, same]
  · have unexpanded : upperExpansions.lookup c.toNat = none := by
      rw [List.lookup_eq_none_iff]
      intro entry member
      rw [bne_iff_ne]
      intro same
      exact settled (List.mem_append_right _ (List.mem_map.mpr ⟨entry, member, same.symm⟩))
    have unmoved : upperRuns.find? (·.covers c.toNat) = none := by
      rw [List.find?_eq_none]
      intro run member covered
      exact settled (List.mem_append_left _
        (List.mem_flatMap.mpr ⟨run, List.mem_cons_of_mem _ member, CaseRun.mem_codes covered⟩))
    simp only [upperChar, if_neg ascii, unexpanded, CaseRun.apply, unmoved]

/-- A character has the code that it is made of. -/
theorem toNat_ofNat_of_isValidChar {code : Nat} (valid : code.isValidChar) :
    (Char.ofNat code).toNat = code := by
  unfold Char.ofNat
  rw [dif_pos valid]
  rfl

/-- A character of a capital form is a capital, unless it is the character itself. -/
theorem eq_or_capital_of_mem_upperChar {c capital : Char} (member : capital ∈ upperChar c) :
    (capital = c ∧ upperChar c = [c]) ∨ capital.toNat ∈ allCapitalCodes := by
  by_cases ascii : c.toNat < 128
  · obtain ⟨moved, kept⟩ := toUpper_ascii c.toNat ascii
    rw [Char.ofNat_toNat] at moved kept
    have form : upperChar c = [c.toUpper] := by simp only [upperChar, if_pos ascii]
    rw [form, List.mem_singleton] at member
    by_cases letter : c.toNat ∈ asciiRun.codes
    · right
      rw [member, moved letter]
      exact List.mem_append_left _ (List.mem_map_of_mem letter)
    · rw [kept letter] at member form
      exact .inl ⟨member, form⟩
  cases expanded : upperExpansions.lookup c.toNat with
  | some codes =>
    right
    simp only [upperChar, if_neg ascii, expanded, List.mem_map] at member
    obtain ⟨code, isCode, rfl⟩ := member
    obtain ⟨before, after, split, _⟩ := List.lookup_eq_some_iff.mp expanded
    have listed : (c.toNat, codes) ∈ upperExpansions := by
      rw [split]
      exact List.mem_append_right _ List.mem_cons_self
    rw [toNat_ofNat_of_isValidChar (isValidChar_expanded _ listed code isCode)]
    exact List.mem_append_right _ (List.mem_append_right _
      (List.mem_flatMap.mpr ⟨_, listed, isCode⟩))
  | none =>
    have form : upperChar c = [CaseRun.apply upperRuns c] := by
      simp only [upperChar, if_neg ascii, expanded]
    rw [form, List.mem_singleton] at member
    cases found : upperRuns.find? (·.covers c.toNat) with
    | none =>
      have same : CaseRun.apply upperRuns c = c := by simp only [CaseRun.apply, found]
      rw [same] at member form
      exact .inl ⟨member, form⟩
    | some run =>
      have covered : run.covers c.toNat = true := by simpa using List.find?_some found
      have listed := List.mem_of_find?_eq_some found
      have valid := CaseRun.target_isValidChar (List.all_eq_true.mp upperRuns_land run listed) covered
      have moved : CaseRun.apply upperRuns c = Char.ofNat (run.target c.toNat) := by
        simp only [CaseRun.apply, found]
        rfl
      right
      rw [member, moved, toNat_ofNat_of_isValidChar valid]
      exact List.mem_append_right _ (List.mem_append_left _ (List.mem_flatMap.mpr
        ⟨run, listed, List.mem_map_of_mem (CaseRun.mem_codes covered)⟩))

/-- A character in a capital form is its own capital form. -/
theorem upperChar_of_mem_upperChar {c capital : Char} (member : capital ∈ upperChar c) :
    upperChar capital = [capital] := by
  rcases eq_or_capital_of_mem_upperChar member with ⟨rfl, form⟩ | isCapital
  · exact form
  · exact upperChar_of_not_small fun isSmall => smallCodes_disjoint isSmall isCapital

/-- The expansions are not empty. -/
theorem expanded_ne_nil : ∀ entry ∈ upperExpansions, entry.2 ≠ [] := by
  decide +kernel

/-- Every character has a capital form. -/
theorem upperChar_ne_nil (c : Char) : upperChar c ≠ [] := by
  by_cases ascii : c.toNat < 128
  · rw [upperChar, if_pos ascii]
    exact List.cons_ne_nil _ _
  cases expanded : upperExpansions.lookup c.toNat with
  | some codes =>
    obtain ⟨before, after, split, _⟩ := List.lookup_eq_some_iff.mp expanded
    have nonempty : codes ≠ [] :=
      expanded_ne_nil (c.toNat, codes) (by rw [split]; exact List.mem_append_right _ List.mem_cons_self)
    simpa only [upperChar, if_neg ascii, expanded, ne_eq, List.map_eq_nil_iff] using nonempty
  | none => simp only [upperChar, if_neg ascii, expanded, ne_eq, List.cons_ne_nil, not_false_eq_true]

/-- Small letters of ASCII have the capital forms of their capitals. -/
theorem upperChar_toLower (c : Char) : upperChar c.toLower = upperChar c := by
  have letters : ∀ code < 128, (Char.ofNat code).toLower.toNat < 128 ∧
      (Char.ofNat code).toLower.toUpper = (Char.ofNat code).toUpper := by
    decide +kernel
  by_cases ascii : c.toNat < 128
  · obtain ⟨isAscii, sameCapital⟩ := letters c.toNat ascii
    rw [Char.ofNat_toNat] at isAscii sameCapital
    simp only [upperChar, if_pos ascii, if_pos isAscii, sameCapital]
  · have kept : c.toLower = c := by
      unfold Char.toLower
      split
      · next capital =>
        have atMost : c.toNat ≤ 90 := capital.2
        omega
      · rfl
    rw [kept]

/-! ## Marks -/

/-- A character that is in no table: it has no other capital form and stands in none. -/
def IsMark (mark : Char) : Prop :=
  mark.toNat ∉ smallCodes ∧ mark.toNat ∉ allCapitalCodes

theorem isMark_separator : IsMark '/' := by
  constructor <;> decide +kernel

theorem isMark_hyphen : IsMark '-' := by
  constructor <;> decide +kernel

/-- A mark stands in its own capital form alone. -/
theorem IsMark.mem_upperChar_iff {mark : Char} (isMark : IsMark mark) (c : Char) :
    mark ∈ upperChar c ↔ c = mark := by
  constructor
  · intro member
    rcases eq_or_capital_of_mem_upperChar member with ⟨same, _⟩ | isCapital
    · exact same.symm
    · exact absurd isCapital isMark.2
  · rintro rfl
    rw [upperChar_of_not_small isMark.1]
    exact List.mem_cons_self

theorem IsMark.mem_upperChars_iff {mark : Char} (isMark : IsMark mark) (cs : List Char) :
    mark ∈ upperChars cs ↔ mark ∈ cs := by
  simp only [upperChars, List.mem_flatMap, isMark.mem_upperChar_iff, exists_eq_right]

/-- Capitals of what stands in front of a mark stand in front of it among the capitals. -/
theorem IsMark.takeWhile_upperChars {mark : Char} (isMark : IsMark mark) (cs : List Char) :
    (upperChars cs).takeWhile (· ≠ mark) = upperChars (cs.takeWhile (· ≠ mark)) := by
  induction cs with
  | nil => rfl
  | cons c rest ih =>
    rw [upperChars] at ih ⊢
    rw [List.flatMap_cons]
    by_cases same : c = mark
    · rw [same, upperChar_of_not_small isMark.1]
      simp [upperChars]
    · have apart : ∀ d ∈ upperChar c, decide (d ≠ mark) = true := by
        intro d member
        exact decide_eq_true fun isSame => same ((isMark.mem_upperChar_iff c).mp (isSame ▸ member))
      rw [List.takeWhile_append_of_pos apart, ih, List.takeWhile_cons_of_pos (by simpa using same)]
      rfl

/-- Capitals of what stands behind the marks in front stand behind these among the capitals. -/
theorem IsMark.dropWhile_upperChars {mark : Char} (isMark : IsMark mark) (cs : List Char) :
    (upperChars cs).dropWhile (· = mark) = upperChars (cs.dropWhile (· = mark)) := by
  induction cs with
  | nil => rfl
  | cons c rest ih =>
    rw [upperChars] at ih ⊢
    rw [List.flatMap_cons]
    by_cases same : c = mark
    · rw [same, upperChar_of_not_small isMark.1, List.singleton_append,
        List.dropWhile_cons_of_pos (by simp), ih, List.dropWhile_cons_of_pos (by simp)]
    · obtain ⟨first, others, form⟩ := List.exists_cons_of_ne_nil (upperChar_ne_nil c)
      have apart : first ≠ mark := by
        rintro rfl
        exact same ((isMark.mem_upperChar_iff c).mp (form ▸ List.mem_cons_self))
      rw [form, List.cons_append, List.dropWhile_cons_of_neg (by simp [apart]),
        List.dropWhile_cons_of_neg (by simp [same]), upperChars, List.flatMap_cons, form,
        List.cons_append]

/-! ## Texts -/

/-- The capital form of a text is empty only for the empty text. -/
theorem upper_ne_empty {text : String} (nonempty : text ≠ "") : upper text ≠ "" := by
  rw [ne_eq, ← String.toList_inj, upper, String.toList_ofList]
  cases shape : text.toList with
  | nil => exact absurd (String.toList_inj.mp shape) nonempty
  | cons c rest =>
    rw [upperChars, List.flatMap_cons]
    exact List.append_ne_nil_of_left_ne_nil (upperChar_ne_nil c) _

/-- Characters that are their own capital forms are left alone. -/
theorem upperChars_of_settled {cs : List Char} (settled : ∀ c ∈ cs, upperChar c = [c]) :
    upperChars cs = cs := by
  induction cs with
  | nil => rfl
  | cons c rest ih =>
    have first := settled c List.mem_cons_self
    have others := ih fun other member => settled other (List.mem_cons_of_mem c member)
    rw [upperChars] at others ⊢
    rw [List.flatMap_cons, first, others, List.singleton_append]

/-- A capital form is its own capital form. -/
theorem upperChars_upperChars (cs : List Char) : upperChars (upperChars cs) = upperChars cs := by
  apply upperChars_of_settled
  intro capital member
  obtain ⟨c, _, inForm⟩ := List.mem_flatMap.mp member
  exact upperChar_of_mem_upperChar inForm

/-- The capital form of a text is its own capital form. -/
theorem upper_upper (text : String) : upper (upper text) = upper text := by
  simp only [upper, String.toList_ofList, upperChars_upperChars]

/-- Texts that differ in the case of letters of ASCII alone have one capital form. -/
theorem upper_eq_of_map_toLower {text other : String}
    (alike : text.map Char.toLower = other.map Char.toLower) : upper text = upper other := by
  have lowered (text : String) : upper (text.map Char.toLower) = upper text := by
    simp only [upper, upperChars, String.toList_map, List.flatMap_map, upperChar_toLower]
  rw [← lowered text, alike, lowered]

end Sluice.Text
