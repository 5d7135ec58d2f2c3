import Sluice.Json.Printer
import Sluice.Json.Skipping
import Sluice.Proofs.Json.Reading
import Sluice.Proofs.Text.Utf8

/-!
# Reading back quoted text

Every text is read back from its quoted form, and passed over as well. `Escaped` lists the forms that
a character takes between the quotes; the readers are followed through one character at a time, with
one case for each form.
-/

namespace Sluice.Json

open Text.Utf8 (encodeChar encodeChars)

/-- A byte that stands for itself in quoted text. -/
def IsPlain (byte : UInt8) : Prop :=
  byte ≠ 0x22 ∧ byte ≠ 0x5c ∧ ¬ byte.toNat < 0x20

/-- The forms that a character takes within quoted text. -/
inductive Escaped (c : Char) : List UInt8 → Prop where
  /-- The character itself. -/
  | plain (passed : ∀ byte ∈ encodeChar c, IsPlain byte) : Escaped c (encodeChar c)
  /-- A backslash and a letter. -/
  | letter {letter denoted : UInt8} (different : letter ≠ 0x75)
      (stands : Reader.simpleEscape? letter = some denoted) (denotes : encodeChar c = [denoted]) :
      Escaped c [0x5c, letter]
  /-- The code of a control character. -/
  | unit {first second third fourth : UInt8}
      (spells : Text.Hex.quad? first second third fourth = some c.toNat) (control : c.toNat < 0x20) :
      Escaped c [0x5c, 0x75, first, second, third, fourth]

namespace Escaped

/-- The bytes of a character beyond ASCII all lie beyond it. -/
theorem high_of_mem_encodeChar {c : Char} (beyond : ¬ c.toNat < 0x80) {byte : UInt8}
    (member : byte ∈ encodeChar c) : 0x80 ≤ byte.toNat := by
  have valid := Text.Utf8.code_cases c
  have high {n : Nat} (least : 0x80 ≤ n) (bound : n < 0x100) : 0x80 ≤ n.toUInt8.toNat := by
    rw [Text.Utf8.toNat_toUInt8 bound]
    exact least
  simp only [encodeChar, if_neg beyond] at member
  split at member
  · simp only [List.mem_cons, List.not_mem_nil, or_false] at member
    rcases member with rfl | rfl <;> exact high (by omega) (by omega)
  split at member
  · simp only [List.mem_cons, List.not_mem_nil, or_false] at member
    rcases member with rfl | rfl | rfl <;> exact high (by omega) (by omega)
  · simp only [List.mem_cons, List.not_mem_nil, or_false] at member
    rcases member with rfl | rfl | rfl | rfl <;> exact high (by omega) (by omega)

/-- A character that is neither a quote nor a backslash nor a control character stands for itself. -/
theorem isPlain_of_mem_encodeChar {c : Char} (noQuote : c ≠ '"') (noSlash : c ≠ '\\')
    (noControl : ¬ c.toNat < 0x20) {byte : UInt8} (member : byte ∈ encodeChar c) : IsPlain byte := by
  by_cases ascii : c.toNat < 0x80
  · simp only [encodeChar, if_pos ascii, List.mem_singleton] at member
    have number : byte.toNat = c.toNat := by
      rw [member, Text.Utf8.toNat_toUInt8 (by omega)]
    have differs (other : Char) (different : c ≠ other) : c.toNat ≠ other.toNat := fun same =>
      different (Char.toNat_inj.mp same)
    refine ⟨?_, ?_, by omega⟩
    · rintro rfl
      exact differs '"' noQuote number.symm
    · rintro rfl
      exact differs '\\' noSlash number.symm
  · have high := high_of_mem_encodeChar ascii member
    refine ⟨?_, ?_, by omega⟩
    · rintro rfl
      exact absurd high (by decide)
    · rintro rfl
      exact absurd high (by decide)

/-- The forms of the control characters. -/
theorem control_forms : ∀ code < 0x20,
    (∃ letter ∈ Reader.letters "btnfr",
      encodeChars (escapeChar (Char.ofNat code)) = [0x5c, letter] ∧ letter ≠ 0x75 ∧
        Reader.simpleEscape? letter = some code.toUInt8) ∨
    (∃ third ∈ Reader.letters "01", ∃ fourth ∈ Reader.letters "0123456789abcdef",
      encodeChars (escapeChar (Char.ofNat code)) = [0x5c, 0x75, 0x30, 0x30, third, fourth] ∧
        Text.Hex.quad? 0x30 0x30 third fourth = some code) := by
  decide +kernel

end Escaped

/-- Every character is written in one of the forms. -/
theorem escaped_escapeChar (c : Char) : Escaped c (encodeChars (escapeChar c)) := by
  by_cases isQuote : c = '"'
  · subst isQuote
    have stands : Reader.simpleEscape? 0x22 = some 0x22 := by decide
    exact .letter (by decide) stands (by decide)
  by_cases isSlash : c = '\\'
  · subst isSlash
    have stands : Reader.simpleEscape? 0x5c = some 0x5c := by decide
    exact .letter (by decide) stands (by decide)
  by_cases control : c.toNat < 0x20
  · have restored : Char.ofNat c.toNat = c := Char.ofNat_toNat c
    have ascii : c.toNat < 0x80 := by omega
    have forms := Escaped.control_forms c.toNat control
    rw [restored] at forms
    rcases forms with ⟨letter, _, form, different, stands⟩ | ⟨third, _, fourth, _, form, spells⟩
    · rw [form]
      exact .letter different stands (if_pos ascii)
    · rw [form]
      exact .unit spells control
  · have itself : encodeChars (escapeChar c) = encodeChar c := by
      simp only [escapeChar, isQuote, isSlash, control, if_false, encodeChars, List.flatMap_cons,
        List.flatMap_nil, List.append_nil]
    rw [itself]
    exact .plain fun _ => Escaped.isPlain_of_mem_encodeChar isQuote isSlash control

/-- Every form takes some bytes. -/
theorem Escaped.length_pos {c : Char} {written : List UInt8} (escaped : Escaped c written) :
    0 < written.length := by
  cases escaped with
  | plain _ =>
    simp only [encodeChar]
    repeat' split
    all_goals simp
  | letter _ _ _ | unit _ _ => simp

/-! ## Reading -/

/-- Bytes that stand for themselves are read as they are. -/
theorem scanText_plain {passed : List UInt8} (plain : ∀ byte ∈ passed, IsPlain byte)
    (read rest : List UInt8) (offset : Nat) :
    Reader.scanText read offset (passed ++ rest) =
      Reader.scanText (passed.reverse ++ read) (offset + passed.length) rest := by
  induction passed generalizing read offset with
  | nil => rfl
  | cons byte passed ih =>
    obtain ⟨noQuote, noSlash, noControl⟩ := plain byte List.mem_cons_self
    rw [List.cons_append, Reader.scanText.eq_def]
    simp only [noQuote, noControl, noSlash, if_false, ne_eq, not_false_eq_true, if_true]
    rw [ih fun other member => plain other (List.mem_cons_of_mem byte member)]
    simp only [List.reverse_cons, List.append_assoc, List.singleton_append, List.length_cons,
      Nat.add_assoc, Nat.add_comm 1]

/-- A character is read from each of its forms. -/
theorem Escaped.scanText_eq {c : Char} {written : List UInt8} (escaped : Escaped c written)
    (read rest : List UInt8) (offset : Nat) :
    Reader.scanText read offset (written ++ rest) =
      Reader.scanText ((encodeChar c).reverse ++ read) (offset + written.length) rest := by
  cases escaped with
  | plain passed => exact scanText_plain passed ..
  | letter different stands denotes =>
    rw [List.cons_append, Reader.scanText.eq_def]
    simp [different, stands, denotes]
  | unit spells control =>
    have restored : Char.ofNat c.toNat = c := Char.ofNat_toNat c
    have noLow : Reader.isLowSurrogate c.toNat = false := by
      simp only [Reader.isLowSurrogate, Bool.and_eq_false_iff, decide_eq_false_iff_not]
      omega
    have noHigh : Reader.isHighSurrogate c.toNat = false := by
      simp only [Reader.isHighSurrogate, Bool.and_eq_false_iff, decide_eq_false_iff_not]
      omega
    rw [List.cons_append, Reader.scanText.eq_def]
    simp [spells, noLow, noHigh, Reader.pushChar, restored, List.reverseAux_eq]

/-- The quoted form of characters is read up to its closing quote. -/
theorem scanText_quoted (read rest : List UInt8) (offset : Nat) (cs : List Char) :
    Reader.scanText read offset (encodeChars (cs.flatMap escapeChar ++ ['"']) ++ rest) =
      (.ok (read.reverse ++ encodeChars cs),
        offset + (encodeChars (cs.flatMap escapeChar ++ ['"'])).length, rest) := by
  induction cs generalizing read offset with
  | nil =>
    have closing : encodeChars (List.flatMap escapeChar [] ++ ['"']) = [0x22] := by decide
    rw [closing, List.cons_append, Reader.scanText.eq_def]
    simp [encodeChars]
  | cons c cs ih =>
    have split : encodeChars ((c :: cs).flatMap escapeChar ++ ['"']) =
        encodeChars (escapeChar c) ++ encodeChars (cs.flatMap escapeChar ++ ['"']) := by
      rw [List.flatMap_cons, List.append_assoc, Text.Utf8.encodeChars_append]
    rw [split, List.append_assoc, (escaped_escapeChar c).scanText_eq, ih]
    simp [encodeChars, Nat.add_assoc]

/-- A quoted text is read back behind its opening quote. -/
theorem reads_text (value : String) (rest : List UInt8) :
    Reads Reader.text (encodeChars (value.toList.flatMap escapeChar ++ ['"'])) value rest := by
  intro before
  have scanned := scanText_quoted [] rest before.length value.toList
  simp only [Reader.text, Cursor.between, scanned, List.reverse_nil, List.nil_append,
    Text.Utf8.decode?_encodeChars, String.ofList_toList, List.length_append, Nat.add_assoc]
  rfl

/-! ## Passing over -/

/-- Bytes that stand for themselves are dropped. -/
theorem dropPlain_plain {passed : List UInt8} (plain : ∀ byte ∈ passed, IsPlain byte)
    (offset : Nat) (rest : List UInt8) :
    Reader.dropPlain offset (passed ++ rest) =
      Reader.dropPlain (offset + passed.length) rest := by
  induction passed generalizing offset with
  | nil => rfl
  | cons byte passed ih =>
    obtain ⟨noQuote, noSlash, noControl⟩ := plain byte List.mem_cons_self
    rw [List.cons_append, Reader.dropPlain, if_neg (by simp [noQuote, noSlash, noControl]),
      ih fun other member => plain other (List.mem_cons_of_mem byte member), List.length_cons,
      Nat.add_assoc, Nat.add_comm 1]

/-- Passing over text goes on at the first byte that does not stand for itself. -/
theorem skipTextSteps_plain {passed : List UInt8} (plain : ∀ byte ∈ passed, IsPlain byte)
    (steps : Nat) (rest : List UInt8) :
    Passes (Reader.skipTextSteps (steps + 1)) passed (Reader.skipTextSteps (steps + 1)) rest := by
  refine .moving fun before => ?_
  simp only [Cursor.between, dropPlain_plain plain, List.append_assoc, List.length_append]

/-- A byte that does not stand for itself is where passing over text goes on. -/
theorem dropPlain_special {byte : UInt8} (special : byte = 0x22 ∨ byte = 0x5c) (offset : Nat)
    (rest : List UInt8) : Reader.dropPlain offset (byte :: rest) = (offset, byte :: rest) := by
  rcases special with rfl | rfl <;> rfl

/-- A code of four digits is passed over. -/
theorem reads_skipUnit {first second third fourth : UInt8} {unit : Nat}
    (spells : Text.Hex.quad? first second third fourth = some unit) (rest : List UInt8) :
    Reads Reader.skipUnit [first, second, third, fourth] () rest := by
  intro before
  have sizes : (before ++ [first, second, third, fourth]).length = before.length + 4 := by simp
  simp only [Reader.skipUnit, Cursor.between, List.cons_append, List.nil_append, spells, sizes,
    List.append_assoc]
  rfl

/-- A character is passed over in at most one step, whatever its form. -/
theorem Escaped.skipTextSteps_passes {c : Char} {written : List UInt8}
    (escaped : Escaped c written) (steps : Nat) (rest : List UInt8) :
    ∃ left, steps ≤ left ∧
      Passes (Reader.skipTextSteps (steps + 1)) written (Reader.skipTextSteps left) rest := by
  cases escaped with
  | plain passed => exact ⟨steps + 1, Nat.le_succ steps, skipTextSteps_plain passed steps rest⟩
  | letter different stands _ =>
    refine ⟨steps, Nat.le_refl steps, .resting (fun before => ?_) (.peek (.pass (.next ?_)))⟩
    · simp [Cursor.between, dropPlain_special]
    · simp only [different, stands, if_false, Option.isSome_some, if_true]
      exact .refl _ rest
  | unit spells _ =>
    refine ⟨steps, Nat.le_refl steps, .resting (fun before => ?_) (.peek (.pass (.next ?_)))⟩
    · simp [Cursor.between, dropPlain_special]
    · exact (reads_skipUnit spells rest).bind _

/-- The quoted form of characters is passed over up to its closing quote. -/
theorem reads_skipTextSteps (cs : List Char) {steps : Nat} (enough : cs.length < steps)
    (rest : List UInt8) :
    Reads (Reader.skipTextSteps steps) (encodeChars (cs.flatMap escapeChar ++ ['"'])) () rest := by
  induction cs generalizing steps with
  | nil =>
    obtain ⟨steps, rfl⟩ := Nat.exists_eq_add_of_lt enough
    refine .resting (fun before => ?_) (.peek (reads_pass 0x22 rest))
    rfl
  | cons c cs ih =>
    obtain ⟨less, rfl⟩ : ∃ less, steps = less + 1 := Nat.exists_eq_succ_of_ne_zero (by omega)
    obtain ⟨left, kept, passes⟩ := (escaped_escapeChar c).skipTextSteps_passes less
      (encodeChars (cs.flatMap escapeChar ++ ['"']) ++ rest)
    rw [List.flatMap_cons, List.append_assoc, Text.Utf8.encodeChars_append]
    exact passes.trans (ih (by simp only [List.length_cons] at enough; omega))

/-- The quoted form of characters takes at least one byte for each of them. -/
theorem length_le_quoted (cs : List Char) :
    cs.length ≤ (encodeChars (cs.flatMap escapeChar)).length := by
  induction cs with
  | nil => exact Nat.le_refl 0
  | cons c cs ih =>
    have some_byte := (escaped_escapeChar c).length_pos
    rw [List.flatMap_cons, Text.Utf8.encodeChars_append, List.length_append, List.length_cons]
    omega

/-- A quoted text is passed over behind its opening quote. -/
theorem reads_skipText (cs : List Char) (rest : List UInt8) :
    Reads Reader.skipText (encodeChars (cs.flatMap escapeChar ++ ['"'])) () rest := by
  intro before
  have bytes := length_le_quoted cs
  refine reads_skipTextSteps cs ?_ rest before
  simp only [Cursor.between, Text.Utf8.encodeChars_append, List.length_append]
  omega

end Sluice.Json
