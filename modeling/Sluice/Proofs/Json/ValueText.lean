import Sluice.Proofs.Json.NumberText
import Sluice.Proofs.Json.QuotedText

/-!
# Passing over value texts

The text of every value is passed over, however deep its brackets are nested. The reader keeps a stack
of open frames and takes at most two steps for a byte; both facts are carried together through the
text, so that the steps which a reader allows itself are shown to suffice. A frame is treated once,
for lists and objects alike: it is made of entries, and an entry is what stands between separators.
-/

namespace Sluice.Json

open Text.Utf8 (encodeChars encodeChars_append)
open Reader (Frame skipSteps skipToValue)

/-- What is left to be done when a value has been passed over. -/
def afterValue (steps : Nat) : List Frame → Reader Unit
  | [] => pure ()
  | frame :: frames => skipSteps steps (.separator false) (frame :: frames)

/-- Bytes that are passed over as a value. -/
structure PassedOver (written : List UInt8) : Prop where
  starts : ∃ first others, written = first :: others ∧ ¬ IsBlank first ∧ first ≠ 0x5d
  passes : ∃ used, used < 2 * written.length ∧
    ∀ (steps : Nat) (frames : List Frame) (rest : List UInt8), Delimited rest →
      Passes (skipSteps (steps + used) .value frames) written (afterValue steps frames) rest

/-- Bytes that are passed over as an entry of a frame: as an item, or as a key with its value. -/
structure PassedEntry (frame : Frame) (written : List UInt8) : Prop where
  starts : ∃ first others, written = first :: others ∧ ¬ IsBlank first ∧ first ≠ frame.closing
  passes : ∃ used, used < 2 * written.length ∧
    ∀ (steps : Nat) (frames : List Frame) (rest : List UInt8), Delimited rest →
      Passes (skipToValue frame >>= fun _ => skipSteps (steps + used) .value (frame :: frames))
        written (skipSteps steps (.separator false) (frame :: frames)) rest

/-! ## Values that are not nested -/

/-- A value that is not nested takes one step. -/
theorem passedOver_of_scalar {written : List UInt8}
    (starts : ∃ first others, written = first :: others ∧ ¬ IsBlank first ∧ first ≠ 0x5d)
    (reads : ∀ rest, Delimited rest → Reads Reader.skipScalar written none rest) :
    PassedOver written where
  starts := starts
  passes := by
    obtain ⟨first, others, rfl, _⟩ := starts
    refine ⟨1, by simp; omega, fun steps frames rest delimited => ?_⟩
    cases frames with
    | nil => exact (reads rest delimited).bind _
    | cons frame frames => exact (reads rest delimited).bind _

/-- A quoted text is passed over. -/
theorem passedOver_quote (value : String) : PassedOver (encodeChars (quote value)) := by
  have layout : encodeChars (quote value) =
      0x22 :: encodeChars (value.toList.flatMap escapeChar ++ ['"']) := rfl
  rw [layout]
  refine passedOver_of_scalar ⟨_, _, rfl, by decide, by decide⟩ fun rest _ => ?_
  refine .look (by decide) (.pass ?_)
  exact (reads_skipText value.toList rest).bind fun _ => pure none

/-- A word is passed over. -/
theorem passedOver_word {word : List Char}
    (isWord : word = "null".toList ∨ word = "true".toList ∨ word = "false".toList) :
    PassedOver (encodeChars word) := by
  refine passedOver_of_scalar ?_ fun rest _ => ?_
  · rcases isWord with rfl | rfl | rfl <;> exact ⟨_, _, rfl, by decide, by decide⟩
  · rcases isWord with rfl | rfl | rfl <;>
      exact .look (by decide) (.pass ((reads_word _ rest).bind fun _ => pure none))

/-- A digit is no mark that begins another kind of value. -/
theorem digit_ne {byte : UInt8} (digit : Reader.isDigit byte = true) :
    byte ≠ 0x6e ∧ byte ≠ 0x74 ∧ byte ≠ 0x66 ∧ byte ≠ 0x2d ∧ byte ≠ 0x22 ∧ byte ≠ 0x5d ∧
      ¬ IsBlank byte := by
  have different {other : UInt8} (noDigit : Reader.isDigit other = false) : byte ≠ other := by
    rintro rfl
    exact absurd digit (by simp [noDigit])
  refine ⟨different rfl, different rfl, different rfl, different rfl, different rfl, different rfl, ?_⟩
  rintro (rfl | rfl | rfl | rfl) <;> exact absurd digit (by decide)

/-- A numeral begins with a digit. -/
theorem Numeral.starts {cs : List Char} (numeral : Numeral cs) :
    ∃ first others, encodeChars cs = first :: others ∧ Reader.isDigit first = true := by
  obtain ⟨whole, fraction, power, isWhole, _, _, rfl⟩ := numeral.parts
  have digits : ∃ c others, whole = c :: others ∧ c.isDigit = true := by
    cases isWhole with
    | zero => exact ⟨_, _, rfl, rfl⟩
    | positive _ digits => exact ⟨_, _, rfl, digits _ List.mem_cons_self⟩
  obtain ⟨c, others, rfl, digit⟩ := digits
  obtain ⟨single, isDigit⟩ := encodeChar_digit digit
  refine ⟨c.toNat.toUInt8, encodeChars (others ++ fraction ++ power), ?_, isDigit⟩
  simp only [List.cons_append, encodeChars, List.flatMap_cons, single, List.nil_append]

/-- The text of a number is passed over. -/
theorem passedOver_number {cs : List Char} (isNumber : NumberText cs) :
    PassedOver (encodeChars cs) := by
  cases isNumber with
  | null => exact passedOver_word (.inl rfl)
  | numeral numeral =>
    obtain ⟨first, others, shape, digit⟩ := numeral.starts
    obtain ⟨noNull, noTrue, noFalse, noMinus, _, noEnd, solid⟩ := digit_ne digit
    refine passedOver_of_scalar ⟨first, others, shape, solid, noEnd⟩ fun rest delimited => ?_
    have reads := numeral.reads_skipNumeral delimited
    rw [shape] at reads ⊢
    refine .look solid ?_
    simp only [noNull, noTrue, noFalse, noMinus, digit, if_false, if_true]
    exact reads.bind fun _ => pure none
  | @negative cs numeral =>
    have layout : encodeChars ('-' :: cs) = 0x2d :: encodeChars cs := rfl
    rw [layout]
    refine passedOver_of_scalar ⟨_, _, rfl, by decide, by decide⟩ fun rest delimited => ?_
    refine .look (by decide) (.pass ?_)
    exact (numeral.reads_skipNumeral delimited).bind fun _ => pure none

/-! ## Frames -/

/-- The byte that opens a frame. -/
def Frame.opening : Frame → UInt8
  | .list => 0x5b
  | .object => 0x7b

/-- The bytes between the brackets of a frame with some entries. -/
def joined : List (List UInt8) → List UInt8
  | [] => []
  | entry :: entries => entry ++ entries.flatMap (0x2c :: ·)

/-- The bracket that opens a frame takes one step. -/
theorem passes_opening (frame : Frame) (steps : Nat) (frames : List Frame) (rest : List UInt8) :
    Passes (skipSteps (steps + 1) .value frames) [Frame.opening frame]
      (skipSteps steps (.separator true) (frame :: frames)) rest := by
  have opens : Reads Reader.skipScalar [Frame.opening frame] (some frame) rest := by
    cases frame <;> exact .look (by decide) (.pass (.refl _ rest))
  exact opens.bind _

/-- The bracket that closes a frame takes one step. -/
theorem passes_closing (frame : Frame) (behindOpening : Bool) (steps : Nat) (frames : List Frame)
    (rest : List UInt8) :
    Passes (skipSteps (steps + 1) (.separator behindOpening) (frame :: frames)) [frame.closing]
      (afterValue steps frames) rest := by
  have solid : ¬ IsBlank frame.closing := by cases frame <;> decide
  have noComma : frame.closing ≠ 0x2c := by cases frame <;> decide
  refine .look solid ?_
  simp only [noComma, false_and, if_false, if_true]
  refine .pass ?_
  cases frames <;> exact .refl _ rest

/-- What follows an entry of a frame delimits it. -/
theorem delimited_entries (frame : Frame) (entries : List (List UInt8)) (rest : List UInt8) :
    Delimited (entries.flatMap (0x2c :: ·) ++ [frame.closing] ++ rest) := by
  intro byte shown
  cases entries with
  | nil =>
    obtain rfl := Option.some.inj shown
    cases frame <;> simp [Frame.closing]
  | cons _ _ =>
    obtain rfl := Option.some.inj shown
    exact .inl rfl

/-- The entries that follow a value in a frame, up to the bracket that closes it. -/
theorem passes_entries (frame : Frame) {entries : List (List UInt8)}
    (passed : ∀ entry ∈ entries, PassedEntry frame entry) :
    ∃ used, used ≤ 2 * (entries.flatMap (0x2c :: ·) ++ [frame.closing]).length ∧
      ∀ (steps : Nat) (frames : List Frame) (rest : List UInt8),
        Passes (skipSteps (steps + used) (.separator false) (frame :: frames))
          (entries.flatMap (0x2c :: ·) ++ [frame.closing]) (afterValue steps frames) rest := by
  induction entries with
  | nil => exact ⟨1, by simp, fun steps frames rest => passes_closing frame false steps frames rest⟩
  | cons entry entries ih =>
    obtain ⟨usedLater, boundLater, later⟩ := ih fun other member =>
      passed other (List.mem_cons_of_mem entry member)
    obtain ⟨usedEntry, boundEntry, first⟩ := (passed entry List.mem_cons_self).passes
    refine ⟨usedLater + usedEntry + 1, ?_, fun steps frames rest => ?_⟩
    · simp only [List.flatMap_cons, List.length_append, List.length_cons] at boundLater ⊢
      omega
    · have grouped : steps + (usedLater + usedEntry + 1) = steps + usedLater + usedEntry + 1 := by
        omega
      rw [grouped, List.flatMap_cons, List.append_assoc, List.cons_append]
      refine .look (by decide) ?_
      simp only [Bool.not_false, and_self, if_true]
      exact .pass ((first (steps + usedLater) frames _ (delimited_entries frame entries rest)).trans
        (later steps frames rest))

/-- A frame with its entries is passed over. -/
theorem passedOver_frame (frame : Frame) {entries : List (List UInt8)}
    (passed : ∀ entry ∈ entries, PassedEntry frame entry) :
    PassedOver (Frame.opening frame :: (joined entries ++ [frame.closing])) where
  starts := ⟨_, _, rfl, by cases frame <;> decide, by cases frame <;> decide⟩
  passes := by
    cases entries with
    | nil =>
      refine ⟨2, by simp [joined], fun steps frames rest _ => ?_⟩
      exact (passes_opening frame (steps + 1) frames _).trans
        (passes_closing frame true steps frames rest)
    | cons entry entries =>
      have head := passed entry List.mem_cons_self
      obtain ⟨first, others, rfl, solid, notClosing⟩ := head.starts
      obtain ⟨usedEntry, boundEntry, passesEntry⟩ := head.passes
      obtain ⟨usedLater, boundLater, later⟩ := passes_entries frame fun other member =>
        passed other (List.mem_cons_of_mem (first :: others) member)
      refine ⟨usedLater + usedEntry + 2, ?_, fun steps frames rest delimited => ?_⟩
      · simp only [joined, List.length_append, List.length_cons] at boundLater boundEntry ⊢
        omega
      · have grouped : steps + (usedLater + usedEntry + 2) =
            steps + usedLater + usedEntry + 1 + 1 := by omega
        have entered : Passes
            (skipSteps (steps + usedLater + usedEntry + 1) (.separator true) (frame :: frames))
            (first :: others)
            (skipSteps (steps + usedLater) (.separator false) (frame :: frames))
            (entries.flatMap (0x2c :: ·) ++ [frame.closing] ++ rest) := by
          refine .look solid ?_
          simp only [Bool.not_true, Bool.false_eq_true, and_false, notClosing, if_false, if_true]
          exact passesEntry (steps + usedLater) frames _ (delimited_entries frame entries rest)
        rw [grouped, joined, List.append_assoc]
        exact (passes_opening frame _ frames _).trans (entered.trans (later steps frames rest))

/-! ## All values -/

/-- A value that is passed over is passed over as an item of a list. -/
theorem PassedOver.item {written : List UInt8} (passed : PassedOver written) :
    PassedEntry .list written where
  starts := passed.starts
  passes := by
    obtain ⟨used, bound, passes⟩ := passed.passes
    exact ⟨used, bound, fun steps frames rest => passes steps (.list :: frames) rest⟩

/-- The bytes of a member of an object. -/
def memberBytes (key : String) (value : List UInt8) : List UInt8 :=
  encodeChars (quote key) ++ 0x3a :: value

/-- A value that is passed over is passed over as the value of a key. -/
theorem PassedOver.member {written : List UInt8} (passed : PassedOver written) (key : String) :
    PassedEntry .object (memberBytes key written) where
  starts := ⟨_, _, rfl, by decide, by decide⟩
  passes := by
    obtain ⟨used, bound, passes⟩ := passed.passes
    refine ⟨used, ?_, fun steps frames rest delimited => ?_⟩
    · simp only [memberBytes, List.length_append, List.length_cons]
      omega
    · have value := passes steps (.object :: frames) rest delimited
      have toValue : Reads (skipToValue .object)
          (0x22 :: (encodeChars (key.toList.flatMap escapeChar ++ ['"']) ++ [0x3a])) ()
          (written ++ rest) :=
        .look (by decide) (.pass ((reads_skipText key.toList _).andThen (reads_colon _)))
      have layout : memberBytes key written =
          0x22 :: (encodeChars (key.toList.flatMap escapeChar ++ ['"']) ++ [0x3a]) ++ written := by
        simp only [memberBytes, List.cons_append, List.append_assoc, List.nil_append]
        rfl
      rw [layout]
      exact (toValue.bind _).trans value

/-- Joined entries, one after another. -/
theorem joined_cons_cons (first second : List UInt8) (entries : List (List UInt8)) :
    joined (first :: second :: entries) = first ++ 0x2c :: joined (second :: entries) := by
  simp [joined]

/-- The text of a list is a frame of the texts of its items. -/
theorem encodeChars_list (items : List Json) :
    encodeChars (chars (.list items)) =
      Frame.opening .list ::
        (joined (items.map fun item => encodeChars (chars item)) ++ [Frame.closing .list]) := by
  have inner : encodeChars (itemChars items) =
      joined (items.map fun item => encodeChars (chars item)) ++ [Frame.closing .list] := by
    induction items with
    | nil => rfl
    | cons item items ih =>
      cases items with
      | nil =>
        rw [itemChars, encodeChars_append]
        simp [joined]
        rfl
      | cons next items =>
        have comma : encodeChars (',' :: itemChars (next :: items)) =
            0x2c :: encodeChars (itemChars (next :: items)) := rfl
        rw [itemChars.eq_3 _ _ (List.cons_ne_nil next items), encodeChars_append, comma, ih]
        simp only [List.map_cons, joined_cons_cons, List.append_assoc, List.cons_append]
  rw [chars, ← inner]
  rfl

/-- The text of an object is a frame of the texts of its members. -/
theorem encodeChars_object (members : Members) :
    encodeChars (chars (.object members)) =
      Frame.opening .object ::
        (joined (members.map fun member => memberBytes member.1 (encodeChars (chars member.2))) ++
          [Frame.closing .object]) := by
  have one (key : String) (value : Json) (more : List Char) :
      encodeChars (quote key ++ ':' :: chars value ++ more) =
        memberBytes key (encodeChars (chars value)) ++ encodeChars more := by
    have colon : encodeChars (':' :: chars value) = 0x3a :: encodeChars (chars value) := rfl
    rw [encodeChars_append, encodeChars_append, colon, memberBytes]
  have inner : encodeChars (memberChars members) =
      joined (members.map fun member => memberBytes member.1 (encodeChars (chars member.2))) ++
        [Frame.closing .object] := by
    induction members with
    | nil => rfl
    | cons member members ih =>
      obtain ⟨key, value⟩ := member
      cases members with
      | nil =>
        rw [memberChars, one]
        simp [joined]
        rfl
      | cons next members =>
        have comma : encodeChars (',' :: memberChars (next :: members)) =
            0x2c :: encodeChars (memberChars (next :: members)) := rfl
        rw [memberChars.eq_3 _ _ _ (List.cons_ne_nil next members), one, comma, ih]
        simp only [List.map_cons, joined_cons_cons, List.append_assoc, List.cons_append]
  rw [chars, ← inner]
  rfl

mutual

/-- The text of a value is passed over. -/
theorem passedOver_chars : (json : Json) → PassedOver (encodeChars (chars json))
  | .null => by
    rw [chars]
    exact passedOver_word (.inl rfl)
  | .bool value => by
    rw [chars]
    cases value
    · exact passedOver_word (.inr (.inr rfl))
    · exact passedOver_word (.inr (.inl rfl))
  | .number value => by
    rw [chars]
    exact passedOver_number (numberText_text value)
  | .text value => by
    rw [chars]
    exact passedOver_quote value
  | .list items => by
    rw [encodeChars_list]
    refine passedOver_frame .list fun entry member => ?_
    obtain ⟨item, isItem, rfl⟩ := List.mem_map.mp member
    exact (passedOver_items items item isItem).item
  | .object members => by
    rw [encodeChars_object]
    refine passedOver_frame .object fun entry member => ?_
    obtain ⟨pair, isMember, rfl⟩ := List.mem_map.mp member
    exact (passedOver_members members pair isMember).member pair.1

/-- The texts of the items of a list are passed over. -/
theorem passedOver_items :
    (items : List Json) → ∀ item ∈ items, PassedOver (encodeChars (chars item))
  | [] => fun _ member => nomatch member
  | first :: rest => fun item member => by
    rcases List.mem_cons.mp member with same | later
    · rw [same]
      exact passedOver_chars first
    · exact passedOver_items rest item later

/-- The texts of the values of an object are passed over. -/
theorem passedOver_members :
    (members : List (String × Json)) → ∀ pair ∈ members, PassedOver (encodeChars (chars pair.2))
  | [] => fun _ member => nomatch member
  | (key, value) :: rest => fun pair member => by
    rcases List.mem_cons.mp member with same | later
    · rw [same]
      exact passedOver_chars value
    · exact passedOver_members rest pair later

end

/-- Any value is passed over, whatever it is nested in. -/
theorem reads_skip (json : Json) {rest : List UInt8} (delimited : Delimited rest) :
    Reads Reader.skip (encodeChars (chars json)) () rest := by
  obtain ⟨used, bound, passes⟩ := (passedOver_chars json).passes
  intro before
  have enough : ∃ steps, 2 * (Cursor.between before (encodeChars (chars json) ++ rest)).size + 2 =
      steps + used := by
    refine ⟨_, (Nat.sub_add_cancel ?_).symm⟩
    simp only [Cursor.between, List.length_append]
    omega
  obtain ⟨steps, counted⟩ := enough
  simp only [Reader.skip, counted]
  exact passes steps [] rest delimited before

end Sluice.Json
