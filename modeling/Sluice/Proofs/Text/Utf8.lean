import Sluice.Text.Utf8

/-!
# Reading back UTF-8

Every text is read back from its bytes. The reader is followed through one character at a time: the
first byte fixes how many bytes are missing and the bounds of the next one, and a character that is
not a surrogate keeps within these bounds.
-/

namespace Sluice.Text.Utf8

/-- A number below 256 is the number of its byte. -/
theorem toNat_toUInt8 {n : Nat} (byte : n < 256) : n.toUInt8.toNat = n := by
  rw [Nat.toUInt8_eq, UInt8.toNat_ofNat']
  exact Nat.mod_eq_of_lt byte

/-- A byte behind the first one of a character brings six bits. -/
theorem Pending.next_of_bits {value missing low high bits : Nat} (sixBits : bits < 64)
    (above : low ≤ 0x80 + bits) (below : 0x80 + bits ≤ high) :
    (⟨value, missing + 2, low, high⟩ : Pending).next (0x80 + bits).toUInt8 =
      .more ⟨value * 64 + bits, missing + 1, 0x80, 0xbf⟩ := by
  have number : (0x80 + bits).toUInt8.toNat = 0x80 + bits := toNat_toUInt8 (by omega)
  simp only [next, number, above, below, and_self, if_true, Nat.add_sub_cancel_left]
  rw [if_neg (by omega)]
  rfl

/-- The last byte of a character brings six bits and completes it. -/
theorem Pending.next_of_last {value bits : Nat} (sixBits : bits < 64) :
    (⟨value, 1, 0x80, 0xbf⟩ : Pending).next (0x80 + bits).toUInt8 =
      .complete (Char.ofNat (value * 64 + bits)) := by
  have number : (0x80 + bits).toUInt8.toNat = 0x80 + bits := toNat_toUInt8 (by omega)
  simp only [next, number, Nat.add_sub_cancel_left]
  rw [if_pos (by omega), if_pos (Nat.le_refl 1)]

/-- The first of two bytes. -/
theorem first_of_two {code : Nat} (least : 0x80 ≤ code) (bound : code < 0x800) :
    first (0xc0 + code / 64).toUInt8 = .more ⟨code / 64, 1, 0x80, 0xbf⟩ := by
  have number : (0xc0 + code / 64).toUInt8.toNat = 0xc0 + code / 64 := toNat_toUInt8 (by omega)
  simp only [first, number]
  rw [if_neg (by omega), if_neg (by omega), if_pos (by omega), Nat.add_sub_cancel_left]

/-- The first of three bytes; its bounds leave out overlong forms and surrogates. -/
theorem first_of_three {code : Nat} (least : 0x800 ≤ code) (bound : code < 0x10000)
    (valid : code < 0xd800 ∨ 0xdfff < code) :
    ∃ low high, first (0xe0 + code / 4096).toUInt8 = .more ⟨code / 4096, 2, low, high⟩ ∧
      low ≤ 0x80 + code / 64 % 64 ∧ 0x80 + code / 64 % 64 ≤ high := by
  have number : (0xe0 + code / 4096).toUInt8.toNat = 0xe0 + code / 4096 :=
    toNat_toUInt8 (by omega)
  simp only [first, number]
  rw [if_neg (by omega), if_neg (by omega), if_neg (by omega)]
  by_cases lowest : code / 4096 = 0
  · rw [if_pos (by omega), lowest]
    exact ⟨0xa0, 0xbf, rfl, by omega, by omega⟩
  rw [if_neg (by omega)]
  by_cases surrogates : code / 4096 = 13
  · rw [if_pos (by omega), surrogates]
    exact ⟨0x80, 0x9f, rfl, by omega, by omega⟩
  rw [if_neg (by omega), if_pos (by omega), Nat.add_sub_cancel_left]
  exact ⟨0x80, 0xbf, rfl, by omega, by omega⟩

/-- The first of four bytes; its bounds leave out overlong forms and codes beyond the last
character. -/
theorem first_of_four {code : Nat} (least : 0x10000 ≤ code) (bound : code < 0x110000) :
    ∃ low high, first (0xf0 + code / 262144).toUInt8 = .more ⟨code / 262144, 3, low, high⟩ ∧
      low ≤ 0x80 + code / 4096 % 64 ∧ 0x80 + code / 4096 % 64 ≤ high := by
  have number : (0xf0 + code / 262144).toUInt8.toNat = 0xf0 + code / 262144 :=
    toNat_toUInt8 (by omega)
  simp only [first, number]
  rw [if_neg (by omega), if_neg (by omega), if_neg (by omega), if_neg (by omega),
    if_neg (by omega), if_neg (by omega)]
  by_cases lowest : code / 262144 = 0
  · rw [if_pos (by omega), lowest]
    exact ⟨0x90, 0xbf, rfl, by omega, by omega⟩
  rw [if_neg (by omega)]
  by_cases highest : code / 262144 = 4
  · rw [if_neg (by omega), if_pos (by omega), highest]
    exact ⟨0x80, 0x8f, rfl, by omega, by omega⟩
  rw [if_pos (by omega), Nat.add_sub_cancel_left]
  exact ⟨0x80, 0xbf, rfl, by omega, by omega⟩

/-- The codes of characters leave out the surrogates. -/
theorem code_cases (c : Char) :
    c.toNat < 0xd800 ∨ (0xdfff < c.toNat ∧ c.toNat < 0x110000) := by
  have valid := c.valid
  simpa [UInt32.isValidChar, Nat.isValidChar] using valid

/-- The bytes of a character are read as that character. -/
theorem decodeOnto_encodeChar (read : List Char) (c : Char) (rest : List UInt8) :
    decodeOnto read none (encodeChar c ++ rest) = decodeOnto (c :: read) none rest := by
  have valid := code_cases c
  have restored : Char.ofNat c.toNat = c := Char.ofNat_toNat c
  have sixBits (n : Nat) : n % 64 < 64 := Nat.mod_lt n (by decide)
  simp only [encodeChar]
  by_cases one : c.toNat < 0x80
  · have number : c.toNat.toUInt8.toNat = c.toNat := toNat_toUInt8 (by omega)
    rw [if_pos one]
    simp only [List.cons_append, List.nil_append, decodeOnto, step, first, number, one, if_true,
      restored]
  rw [if_neg one]
  by_cases two : c.toNat < 0x800
  · have joined : c.toNat / 64 * 64 + c.toNat % 64 = c.toNat := by omega
    rw [if_pos two]
    simp only [List.cons_append, List.nil_append, decodeOnto, step, first_of_two (by omega) two,
      Pending.next_of_last (sixBits _), joined, restored]
  rw [if_neg two]
  by_cases three : c.toNat < 0x10000
  · have joined : (c.toNat / 4096 * 64 + c.toNat / 64 % 64) * 64 + c.toNat % 64 = c.toNat := by
      omega
    obtain ⟨low, high, started, above, below⟩ := first_of_three (by omega) three (by omega)
    rw [if_pos three]
    simp only [List.cons_append, List.nil_append, decodeOnto, step, started,
      Pending.next_of_bits (sixBits _) above below, Pending.next_of_last (sixBits _), joined,
      restored]
  · have joined : ((c.toNat / 262144 * 64 + c.toNat / 4096 % 64) * 64 + c.toNat / 64 % 64) * 64 +
        c.toNat % 64 = c.toNat := by omega
    obtain ⟨low, high, started, above, below⟩ := first_of_four (by omega : 0x10000 ≤ c.toNat) (by omega)
    have third : 0x80 ≤ 0x80 + c.toNat / 64 % 64 := by omega
    have thirdBelow : 0x80 + c.toNat / 64 % 64 ≤ 0xbf := by omega
    rw [if_neg three]
    simp only [List.cons_append, List.nil_append, decodeOnto, step, started,
      Pending.next_of_bits (sixBits _) above below, Pending.next_of_bits (sixBits _) third thirdBelow,
      Pending.next_of_last (sixBits _), joined, restored]

/-- The bytes of characters are read as these characters. -/
theorem decodeOnto_encodeChars (read cs : List Char) :
    decodeOnto read none (encodeChars cs) = some (read.reverse ++ cs) := by
  induction cs generalizing read with
  | nil => simp [encodeChars, decodeOnto]
  | cons c rest ih =>
    have split : encodeChars (c :: rest) = encodeChar c ++ encodeChars rest := rfl
    rw [split, decodeOnto_encodeChar, ih]
    simp

/-- The bytes of a text are read as that text. -/
@[simp] theorem decode?_encodeChars (cs : List Char) :
    decode? (encodeChars cs) = some (String.ofList cs) := by
  simp [decode?, decodeChars?, decodeOnto_encodeChars]

/-- Bytes that spell characters are in no need of repair. -/
theorem repairOnto_of_decodeOnto {read cs : List Char} {state : Option Pending} {bytes : List UInt8}
    (spelled : decodeOnto read state bytes = some cs) : repairOnto read state bytes = cs := by
  induction bytes generalizing read state with
  | nil =>
    cases state with
    | none => exact Option.some.inj spelled
    | some pending => cases spelled
  | cons byte rest ih =>
    cases state with
    | none =>
      simp only [decodeOnto, step, repairOnto] at spelled ⊢
      cases taken : first byte with
      | complete c => exact ih (by rwa [taken] at spelled)
      | more pending => exact ih (by rwa [taken] at spelled)
      | refuse =>
        rw [taken] at spelled
        cases spelled
    | some pending =>
      simp only [decodeOnto, step, repairOnto] at spelled ⊢
      cases taken : pending.next byte with
      | complete c => exact ih (by rwa [taken] at spelled)
      | more further => exact ih (by rwa [taken] at spelled)
      | refuse =>
        rw [taken] at spelled
        cases spelled

/-- The bytes of a text are repaired to that text. -/
theorem repair_encode (text : String) : repair (encode text) = text := by
  rw [repair, encode, repairOnto_of_decodeOnto (decodeOnto_encodeChars [] text.toList),
    List.reverse_nil, List.nil_append, String.ofList_toList]

end Sluice.Text.Utf8
