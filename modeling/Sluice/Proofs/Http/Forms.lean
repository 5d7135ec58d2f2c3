import Mathlib.Data.List.Forall2
import Sluice.Http.Uri
import Sluice.Proofs.Text.Parts
import Sluice.Proofs.Text.Percent

/-!
# Forms in queries

A form is written into a query as fields with `&` between them, each a name and a value with `=`
between them. `Form.Writes` describes the forms whose names and values are written as escapes
throughout, so none of their characters means anything to the reader, and `formPairs_of_writes` says
that the reader finds the fields that were written, in their order and with the empty ones. Every
list of fields has such a form, and a target takes it behind any path.
-/

namespace Sluice.Http.Form

open Text (piecesChars)
open Text.Percent (IsMark Spells)

/-! ## Writing -/

/-- The characters whose codes are some bytes. -/
def charsOf (bytes : List UInt8) : List Char :=
  bytes.map fun byte => Char.ofNat byte.toNat

/-- A text is written with an escape for each of its bytes. -/
def WritesText (written : List Char) (text : String) : Prop :=
  ∃ escapes, Spells escapes (Text.Utf8.encode text) ∧ written = charsOf escapes

/-- A field is written as its name and its value. -/
def WritesField (written : List Char) (field : String × String) : Prop :=
  ∃ name value, WritesText name field.1 ∧ WritesText value field.2 ∧ written = name ++ '=' :: value

/-- A form is written as its fields. -/
def Writes (query : List Char) (fields : List (String × String)) : Prop :=
  ∃ pieces, List.Forall₂ WritesField pieces fields ∧ query = ['&'].intercalate pieces

/-- A text as escapes. -/
def textChars (text : String) : List Char :=
  charsOf (Text.Percent.encode (Text.Utf8.encode text))

/-- A field as escapes. -/
def fieldChars (field : String × String) : List Char :=
  textChars field.1 ++ '=' :: textChars field.2

/-- A form as escapes. -/
def queryChars (fields : List (String × String)) : List Char :=
  ['&'].intercalate (fields.map fieldChars)

theorem writesText_textChars (text : String) : WritesText (textChars text) text :=
  ⟨_, Text.Percent.spells_encode _, rfl⟩

theorem writesField_fieldChars (field : String × String) : WritesField (fieldChars field) field :=
  ⟨_, _, writesText_textChars field.1, writesText_textChars field.2, rfl⟩

/-- Every list of fields can be written. -/
theorem writes_queryChars (fields : List (String × String)) : Writes (queryChars fields) fields := by
  refine ⟨fields.map fieldChars, ?_, rfl⟩
  rw [List.forall₂_map_left_iff, List.forall₂_same]
  exact fun field _ => writesField_fieldChars field

/-! ## What escapes consist of -/

/-- A character that stands for itself in a query and separates nothing. -/
structure IsQuiet (c : Char) : Prop where
  allowed : Uri.isQueryChar c = true
  noAnd : c ≠ '&'
  noEquals : c ≠ '='
  noPlus : c ≠ '+'

/-- The bytes of escapes are ASCII and separate nothing. -/
theorem isQuiet_of_isMark {byte : UInt8} (mark : IsMark byte) :
    IsQuiet (Char.ofNat byte.toNat) ∧ Text.Utf8.encodeChar (Char.ofNat byte.toNat) = [byte] := by
  have all : ∀ code < 256,
      code.toUInt8 = 0x25 ∨ (Text.Hex.value? code.toUInt8).isSome = true →
        (Uri.isQueryChar (Char.ofNat code) = true ∧ Char.ofNat code ≠ '&' ∧
          Char.ofNat code ≠ '=' ∧ Char.ofNat code ≠ '+') ∧
        Text.Utf8.encodeChar (Char.ofNat code) = [code.toUInt8] := by
    decide +kernel
  have restored : byte.toNat.toUInt8 = byte := by rw [Nat.toUInt8_eq, UInt8.ofNat_toNat]
  obtain ⟨⟨allowed, noAnd, noEquals, noPlus⟩, encoded⟩ :=
    all byte.toNat byte.toNat_lt (by rwa [restored])
  exact ⟨⟨allowed, noAnd, noEquals, noPlus⟩, by rw [encoded, restored]⟩

/-- Bytes of escapes are the bytes of their characters. -/
theorem encodeChars_charsOf {bytes : List UInt8} (marks : ∀ byte ∈ bytes, IsMark byte) :
    Text.Utf8.encodeChars (charsOf bytes) = bytes := by
  induction bytes with
  | nil => rfl
  | cons byte rest ih =>
    have later := ih fun other member => marks other (List.mem_cons_of_mem byte member)
    have first := (isQuiet_of_isMark (marks byte List.mem_cons_self)).2
    change Text.Utf8.encodeChar (Char.ofNat byte.toNat) ++ Text.Utf8.encodeChars (charsOf rest) = _
    rw [first, later, List.singleton_append]

theorem WritesText.isQuiet {written : List Char} {text : String} (writes : WritesText written text) :
    ∀ c ∈ written, IsQuiet c := by
  obtain ⟨escapes, spells, rfl⟩ := writes
  intro c member
  obtain ⟨byte, isByte, rfl⟩ := List.mem_map.mp member
  exact (isQuiet_of_isMark (spells.isMark byte isByte)).1

theorem WritesField.noAnd {written : List Char} {field : String × String}
    (writes : WritesField written field) : '&' ∉ written := by
  obtain ⟨name, value, writesName, writesValue, rfl⟩ := writes
  intro member
  rcases List.mem_append.mp member with inName | inValue
  · exact (writesName.isQuiet _ inName).noAnd rfl
  · rcases List.mem_cons.mp inValue with same | inValue
    · exact absurd same (by decide)
    · exact (writesValue.isQuiet _ inValue).noAnd rfl

/-- A field has its equality sign at least. -/
theorem WritesField.ne_nil {written : List Char} {field : String × String}
    (writes : WritesField written field) : written ≠ [] := by
  obtain ⟨name, value, _, _, rfl⟩ := writes
  exact List.append_ne_nil_of_right_ne_nil name (List.cons_ne_nil _ _)

theorem WritesField.allowed {written : List Char} {field : String × String}
    (writes : WritesField written field) : ∀ c ∈ written, Uri.isQueryChar c = true := by
  obtain ⟨name, value, writesName, writesValue, rfl⟩ := writes
  intro c member
  rcases List.mem_append.mp member with inName | inValue
  · exact (writesName.isQuiet c inName).allowed
  · rcases List.mem_cons.mp inValue with rfl | inValue
    · rfl
    · exact (writesValue.isQuiet c inValue).allowed

/-- What every written field has, all pieces of a form have. -/
theorem forall_mem_of_writes {property : List Char → Prop} {pieces : List (List Char)}
    {fields : List (String × String)} (writes : List.Forall₂ WritesField pieces fields)
    (each : ∀ piece field, WritesField piece field → property piece) :
    ∀ piece ∈ pieces, property piece :=
  ((List.forall₂_and_left _ _).mp (writes.imp fun _ _ writes => ⟨each _ _ writes, writes⟩)).1

/-! ## Reading -/

/-- A text is read back from its escapes. -/
theorem formText_of_writes {written : List Char} {text : String} (writes : WritesText written text) :
    Uri.formText written = text := by
  have kept : (written.map fun c => if c = '+' then ' ' else c) = written := by
    refine (List.map_congr_left fun c member => ?_).trans written.map_id
    exact if_neg (writes.isQuiet c member).noPlus
  obtain ⟨escapes, spells, rfl⟩ := writes
  rw [Uri.formText, kept, encodeChars_charsOf spells.isMark, Text.Percent.decode_of_spells spells,
    Text.Utf8.repair_encode]

/-- A field is read back. -/
theorem formPair_of_writes {written : List Char} {field : String × String}
    (writes : WritesField written field) : Uri.formPair written = field := by
  obtain ⟨name, value, writesName, writesValue, rfl⟩ := writes
  have absent : '=' ∉ name := fun member => (writesName.isQuiet _ member).noEquals rfl
  simp only [Uri.formPair, Text.cutChars_append_cons absent, Option.getD_some,
    formText_of_writes writesName, formText_of_writes writesValue]

/-- Fields are read back in their order. -/
theorem map_formPair_of_writes {pieces : List (List Char)} {fields : List (String × String)}
    (writes : List.Forall₂ WritesField pieces fields) :
    (pieces.filter (!·.isEmpty)).map Uri.formPair = fields := by
  induction writes with
  | nil => rfl
  | cons first _ ih =>
    rw [List.filter_cons_of_pos (by simp [first.ne_nil]), List.map_cons, formPair_of_writes first, ih]

/-- A form is read back from its query. -/
theorem formPairs_of_writes {query : List Char} {fields : List (String × String)}
    (writes : Writes query fields) : Uri.formPairs query = fields := by
  obtain ⟨pieces, each, rfl⟩ := writes
  cases pieces with
  | nil =>
    obtain rfl := List.forall₂_nil_left_iff.mp each
    rfl
  | cons piece pieces =>
    have absent : ∀ other ∈ piece :: pieces, '&' ∉ other :=
      forall_mem_of_writes each fun _ _ writes => writes.noAnd
    rw [Uri.formPairs, Text.piecesChars_eq_splitOn,
      List.splitOn_intercalate _ absent (List.cons_ne_nil piece pieces),
      map_formPair_of_writes each]

/-! ## In a target -/

/-- A form stands in a query as it is. -/
theorem Writes.allowed {query : List Char} {fields : List (String × String)}
    (writes : Writes query fields) : query.all Uri.isQueryChar = true := by
  obtain ⟨pieces, each, rfl⟩ := writes
  have pieceAllowed : ∀ piece ∈ pieces, ∀ c ∈ piece, Uri.isQueryChar c = true :=
    forall_mem_of_writes each fun _ _ writes => writes.allowed
  clear each
  rw [List.all_eq_true]
  induction pieces with
  | nil => simp
  | cons piece pieces ih =>
    obtain ⟨first, later⟩ := List.forall_mem_cons.mp pieceAllowed
    cases pieces with
    | nil => simpa using first
    | cons next pieces =>
      rw [List.intercalate_cons_cons]
      intro c member
      rcases List.mem_append.mp member with inFirst | member
      · rcases List.mem_append.mp inFirst with inPiece | inMark
        · exact first c inPiece
        · obtain rfl := List.mem_singleton.mp inMark
          rfl
      · exact ih later c member

end Sluice.Http.Form

namespace Sluice.Http.Uri

/-- No character of a path ends it. -/
theorem ne_of_isPathChar {c : Char} (allowed : isPathChar c = true) : c ≠ '#' ∧ c ≠ '?' :=
  ⟨by rintro rfl; exact absurd allowed (by decide), by rintro rfl; exact absurd allowed (by decide)⟩

/-- No character of a query ends it. -/
theorem ne_of_isQueryChar {c : Char} (allowed : isQueryChar c = true) : c ≠ '#' := by
  rintro rfl
  exact absurd allowed (by decide)

/-- A path and a query are read as such. -/
theorem pathAndQuery?_append {path query : List Char} (nonempty : path ≠ [])
    (pathAllowed : path.all isPathChar = true) (queryAllowed : query.all isQueryChar = true) :
    pathAndQuery? (path ++ '?' :: query) = some ⟨path, some query⟩ := by
  have inPath := List.all_eq_true.mp pathAllowed
  have inQuery := List.all_eq_true.mp queryAllowed
  have body : (path ++ '?' :: query).takeWhile (· ≠ '#') = path ++ '?' :: query := by
    refine List.takeWhile_eq_self_iff.mpr fun c member => decide_eq_true ?_
    rcases List.mem_append.mp member with first | later
    · exact (ne_of_isPathChar (inPath c first)).1
    · rcases List.mem_cons.mp later with rfl | later
      · decide
      · exact ne_of_isQueryChar (inQuery c later)
  have noMark : ∀ c ∈ path, decide (c ≠ '?') = true := fun c member =>
    decide_eq_true (ne_of_isPathChar (inPath c member)).2
  simp only [pathAndQuery?, body, List.takeWhile_append_of_pos noMark,
    List.dropWhile_append_of_pos noMark]
  simp [pathAllowed, queryAllowed, nonempty]

/-- A target that starts with a slash is its path and its query, up to its greatest size. -/
theorem parse?_ofList {path query : List Char} (rooted : path.head? = some '/')
    (pathAllowed : path.all isPathChar = true) (queryAllowed : query.all isQueryChar = true)
    (fits : (String.ofList (path ++ '?' :: query)).utf8ByteSize ≤ maxBytes) :
    parse? (String.ofList (path ++ '?' :: query)) = some ⟨path, some query⟩ := by
  obtain ⟨rest, rfl⟩ := List.head?_eq_some_iff.mp rooted
  have read := pathAndQuery?_append (List.cons_ne_nil '/' rest) pathAllowed queryAllowed
  rw [parse?, if_neg (Nat.not_lt.mpr fits), String.toList_ofList]
  exact read

end Sluice.Http.Uri
