import Mathlib.Data.String.Basic
import Sluice.Proofs.Resource.Rulings

/-!
# Texts of incidents

The identifier of an incident is 36 characters long, whatever its number, and each of them is a digit
to base sixteen or a hyphen. A body that shows an incident therefore has a length which does not
depend on it, and answers to one failure that were given under two incidents differ in those
characters alone.
-/

namespace Sluice.Text.Hex

/-- The characters of numbers to base sixteen. -/
def digits : List Char := "0123456789abcdef".toList

/-- A number to base sixteen is written with digits only. -/
theorem mem_digits_of_mem_toDigits {n : Nat} : ∀ c ∈ Nat.toDigits 16 n, c ∈ digits := by
  have below : ∀ d < 16, Nat.digitChar d ∈ digits := by decide
  induction n using Nat.strongRecOn with
  | ind n ih =>
    rw [Nat.toDigits_eq_if (by decide)]
    split
    · next small =>
      intro c member
      exact List.mem_singleton.mp member ▸ below n small
    · next large =>
      intro c member
      rcases List.mem_append.mp member with front | last
      · exact ih (n / 16) (by omega) c front
      · exact List.mem_singleton.mp last ▸ below (n % 16) (Nat.mod_lt n (by decide))

/-- Nothing but digits fills a number up to its width. -/
theorem mem_digits_of_mem_padded {width n : Nat} : ∀ c ∈ padded width n, c ∈ digits := by
  intro c member
  rcases List.mem_append.mp member with filled | digit
  · exact (List.mem_replicate.mp filled).2 ▸ by decide
  · exact mem_digits_of_mem_toDigits c digit

/-- A number has at least its width. -/
theorem le_length_padded (width n : Nat) : width ≤ (padded width n).length := by
  simp only [padded, List.length_append, List.length_replicate]
  omega

end Sluice.Text.Hex

namespace Sluice.Resource

namespace Incident

/-- The characters of identifiers of incidents. -/
def alphabet : List Char := '-' :: Text.Hex.digits

/-- An identifier of an incident has 36 characters of its alphabet. -/
theorem toList_text (incident : Incident) :
    incident.text.toList.length = 36 ∧ ∀ c ∈ incident.text.toList, c ∈ alphabet := by
  let digits := Text.Hex.padded 32 incident.value
  let group (start count : Nat) : List Char := (digits.drop start).take count
  have long : 32 ≤ digits.length := Text.Hex.le_length_padded 32 incident.value
  have sized {start count : Nat} (bound : start + count ≤ 32) :
      (group start count).length = count := by
    simp only [group, List.length_take, List.length_drop]
    omega
  have clean (start count : Nat) : ∀ c ∈ group start count, c ∈ alphabet := fun c member =>
    List.mem_cons_of_mem '-' (Text.Hex.mem_digits_of_mem_padded c
      (List.mem_of_mem_drop (List.mem_of_mem_take member)))
  have grouped : incident.text.toList =
      group 0 8 ++ ['-'] ++ group 8 4 ++ ['-'] ++ group 12 4 ++ ['-'] ++ group 16 4 ++ ['-'] ++
        group 20 12 := by
    simp only [text, String.toList_intercalate, List.map_cons, List.map_nil, String.toList_ofList,
      List.intercalate_cons_cons, List.intercalate_singleton, List.append_assoc]
    rfl
  have hyphen : ∀ c ∈ ['-'], c ∈ alphabet := fun c member =>
    List.mem_singleton.mp member ▸ List.mem_cons_self
  rw [grouped]
  constructor
  · simp only [List.length_append, List.length_singleton]
    rw [sized (by decide), sized (by decide), sized (by decide), sized (by decide),
      sized (by decide)]
  · simp only [List.forall_mem_append]
    exact ⟨⟨⟨⟨⟨⟨⟨⟨clean _ _, hyphen⟩, clean _ _⟩, hyphen⟩, clean _ _⟩, hyphen⟩, clean _ _⟩,
      hyphen⟩, clean _ _⟩

/-- A text with characters of the alphabet is written into JSON as it is. -/
theorem flatMap_escapeChar {cs : List Char} (clean : ∀ c ∈ cs, c ∈ alphabet) :
    cs.flatMap Json.escapeChar = cs := by
  have all : alphabet.all (fun c => Json.escapeChar c == [c]) = true := by decide
  have itself : ∀ c ∈ alphabet, Json.escapeChar c = [c] := fun c member =>
    beq_iff_eq.mp (List.all_eq_true.mp all c member)
  induction cs with
  | nil => rfl
  | cons c rest ih =>
    rw [List.flatMap_cons, itself c (clean c List.mem_cons_self),
      ih fun d member => clean d (List.mem_cons_of_mem c member)]
    rfl

/-- An identifier of an incident takes a byte for each of its characters. -/
theorem utf8ByteSize_text (incident : Incident) : incident.text.utf8ByteSize = 36 := by
  have all : alphabet.all (·.utf8Size == 1) = true := by decide
  have single : ∀ c ∈ alphabet, c.utf8Size = 1 := fun c member =>
    beq_iff_eq.mp (List.all_eq_true.mp all c member)
  have bytes {cs : List Char} (clean : ∀ c ∈ cs, c ∈ alphabet) : String.utf8Len cs = cs.length := by
    induction cs with
    | nil => rfl
    | cons c rest ih =>
      rw [String.utf8Len, ih fun d member => clean d (List.mem_cons_of_mem c member),
        single c (clean c List.mem_cons_self), List.length_cons]
  obtain ⟨length, clean⟩ := incident.toList_text
  rw [← String.ofList_toList (s := incident.text), String.utf8ByteSize_ofList, bytes clean, length]

end Incident

/-- The body that shows an incident. -/
theorem Envelope.render_ofIncident (incident : Incident) :
    (ofIncident incident).render =
      "\x7b\"message\":\"Internal Server Error\",\"incidentIdentifier\":\"" ++ incident.text ++
        "\"\x7d" := by
  have members : (ofIncident incident).members =
      [("message", .text "Internal Server Error"), ("incidentIdentifier", .text incident.text)] :=
    rfl
  have quoted : Json.quote incident.text = '"' :: incident.text.toList ++ ['"'] := by
    rw [Json.quote, Incident.flatMap_escapeChar incident.toList_text.2]
  have front : '\x7b' :: (Json.quote "message" ++ ':' :: Json.quote "Internal Server Error" ++
      ',' :: (Json.quote "incidentIdentifier" ++ [':', '"'])) =
        "\x7b\"message\":\"Internal Server Error\",\"incidentIdentifier\":\"".toList := by
    decide +kernel
  rw [← String.toList_inj, String.toList_append, String.toList_append, ← front, render, members,
    Json.renderInOrder, String.toList_ofList, Json.membersOnto_eq]
  simp [Json.memberChars, Json.chars, quoted]

/-- Bodies that show incidents have the same length. -/
theorem Envelope.utf8ByteSize_ofIncident (incident other : Incident) :
    (ofIncident incident).render.utf8ByteSize = (ofIncident other).render.utf8ByteSize := by
  simp only [render_ofIncident, String.utf8ByteSize_append, Incident.utf8ByteSize_text]

end Sluice.Resource
