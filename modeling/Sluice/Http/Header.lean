import Sluice.Text.Utf8

/-!
# Header fields

Header fields are pairs of a name and a value, kept in the order in which they were added; a name may
occur several times. Names are compared in small letters, so they are stored that way. A value is a
list of bytes, of which only some can be shown as text.
-/

namespace Sluice.Http

/-- Whether a byte may stand in a name: letters, digits and some marks. -/
def isTokenByte (byte : UInt8) : Bool :=
  let b := byte.toNat
  (0x30 ≤ b && b ≤ 0x39) || (0x41 ≤ b && b ≤ 0x5a) || (0x5e ≤ b && b ≤ 0x7a) || b == 0x21 ||
    (0x23 ≤ b && b ≤ 0x27) || b == 0x2a || b == 0x2b || b == 0x2d || b == 0x2e || b == 0x7c ||
    b == 0x7e

/-- Whether a text can be the name of a header field or of a method. -/
def isToken (text : String) : Bool :=
  !text.isEmpty && (Text.Utf8.encode text).all isTokenByte

/-- Whether a byte may stand in the value of a header field. -/
def isValueByte (byte : UInt8) : Bool :=
  (32 ≤ byte.toNat && byte.toNat ≠ 127) || byte.toNat == 9

/-- Whether a byte of a value can be shown: printable ASCII and the tab. -/
def isVisibleByte (byte : UInt8) : Bool :=
  (32 ≤ byte.toNat && byte.toNat < 127) || byte.toNat == 9

/-- The value of a header field. -/
abbrev HeaderValue := List UInt8

/-- The text of a value all of whose bytes can be shown. -/
def HeaderValue.text? (value : HeaderValue) : Option String :=
  if value.all isVisibleByte then some (String.ofList (value.map fun byte => Char.ofNat byte.toNat))
  else none

/-- A text as a value. -/
def HeaderValue.ofText (text : String) : HeaderValue :=
  Text.Utf8.encode text

/-- A header field. -/
structure Header where
  /-- The name, in small letters. -/
  name : String
  value : HeaderValue
  deriving Repr, DecidableEq

/-- A header field, unless the name or the value has a byte that may not stand there. -/
def Header.make? (name : String) (value : HeaderValue) : Option Header :=
  if isToken name && name.utf8ByteSize ≤ 65535 && value.all isValueByte then
    some ⟨name.map Char.toLower, value⟩
  else none

/-- Header fields in the order in which they were added. -/
abbrev Headers := List Header

namespace Headers

/-- All values of a name. -/
def all (headers : Headers) (name : String) : List HeaderValue :=
  (headers.filter (·.name == name)).map (·.value)

/-- The first value of a name. -/
def first? (headers : Headers) (name : String) : Option HeaderValue :=
  (headers.find? (·.name == name)).map (·.value)

/-- Whether a name occurs. -/
def has (headers : Headers) (name : String) : Bool :=
  List.any headers (·.name == name)

/-- Removes every value of a name. -/
def remove (headers : Headers) (name : String) : Headers :=
  headers.filter (·.name != name)

/-- Adds a value to those of a name. -/
def append (headers : Headers) (name : String) (value : HeaderValue) : Headers :=
  headers ++ [⟨name, value⟩]

/-- Replaces the values of a name by one value. -/
def set (headers : Headers) (name : String) (value : HeaderValue) : Headers :=
  append (remove headers name) name value

/-- Adds a value unless the name occurs. -/
def setIfAbsent (headers : Headers) (name : String) (value : HeaderValue) : Headers :=
  if has headers name then headers else append headers name value

/-- Sets a name to a text. -/
def setText (headers : Headers) (name value : String) : Headers :=
  set headers name (HeaderValue.ofText value)

/-- Replaces the values of every name that occurs in other fields by the values there. -/
def overlay (headers other : Headers) : Headers :=
  headers.filter (fun header => !has other header.name) ++ other

/-- The first value of a name is the first of all its values. -/
theorem first?_eq_head? (headers : Headers) (name : String) :
    first? headers name = (all headers name).head? := by
  rw [first?, all, List.head?_map, List.head?_filter]

theorem all_append (headers : Headers) (name other : String) (value : HeaderValue) :
    all (append headers name value) other =
      all headers other ++ (if name = other then [value] else []) := by
  by_cases same : name = other <;> simp [all, append, List.filter_append, same]

theorem all_remove (headers : Headers) (name other : String) :
    all (remove headers name) other = if name = other then [] else all headers other := by
  simp only [all, remove, List.filter_filter]
  split
  · next same =>
    subst same
    simp [List.filter_eq_nil_iff]
  · next different =>
    congr 1
    apply List.filter_congr
    intro header _
    by_cases h : header.name = other <;> simp [h]
    exact fun equal => different equal.symm

theorem all_set (headers : Headers) (name other : String) (value : HeaderValue) :
    all (set headers name value) other = if name = other then [value] else all headers other := by
  simp only [set, all_append, all_remove]
  split <;> simp

theorem all_setIfAbsent_of_ne {name other : String} (different : name ≠ other) (headers : Headers)
    (value : HeaderValue) : all (setIfAbsent headers name value) other = all headers other := by
  unfold setIfAbsent
  split
  · rfl
  · rw [all_append, if_neg different, List.append_nil]

theorem all_overlay (headers other : Headers) (name : String) :
    all (overlay headers other) name =
      (if has other name then [] else all headers name) ++ all other name := by
  simp only [all, overlay, List.filter_append, List.filter_filter, List.map_append]
  congr 2
  split
  · next replaced =>
    rw [List.filter_eq_nil_iff.mpr, List.map_nil]
    intro header _ kept
    simp only [Bool.and_eq_true, beq_iff_eq, Bool.not_eq_true'] at kept
    rw [kept.1, replaced] at kept
    cases kept.2
  · next kept =>
    congr 1
    apply List.filter_congr
    intro header _
    by_cases same : header.name = name
    · rw [same, Bool.not_eq_true] at *
      simp [kept]
    · simp [same]

theorem has_eq_false_iff (headers : Headers) (name : String) :
    has headers name = false ↔ all headers name = [] := by
  simp only [has, all, List.any_eq_false, List.map_eq_nil_iff, List.filter_eq_nil_iff]

/-- All values of a name after one was added unless the name occurs. -/
theorem all_setIfAbsent (headers : Headers) (name other : String) (value : HeaderValue) :
    all (setIfAbsent headers name value) other =
      if name = other ∧ all headers name = [] then [value] else all headers other := by
  unfold setIfAbsent
  by_cases bare : all headers name = []
  · rw [if_neg (by rw [(has_eq_false_iff ..).mpr bare]; decide), all_append]
    by_cases same : name = other
    · subst same
      simp [bare]
    · simp [same]
  · have present : has headers name = true := by
      rw [← Bool.not_eq_false, has_eq_false_iff]
      exact bare
    simp [present, bare]

end Headers

end Sluice.Http
