import Mathlib.Logic.Basic
import Sluice.Json.Printer
import Sluice.Json.Skipping
import Sluice.Proofs.Json.Reading
import Sluice.Proofs.Text.Utf8

/-!
# Passing over number texts

The text of every number keeps to the grammar of numbers: `Numeral` is that grammar, a whole number
without idle zeros in front, then perhaps a fraction, then perhaps a power of ten. Of the layouts of
a double each is one of these, since the digits of a double are those of a positive number.
-/

namespace Sluice.Json

open Text.Utf8 (encodeChars encodeChars_append)

/-- Digits and nothing else. -/
def AllDigits (cs : List Char) : Prop :=
  ∀ c ∈ cs, c.isDigit = true

/-- The digits of a whole number: zero, or digits that do not begin with zero. -/
inductive WholeText : List Char → Prop where
  | zero : WholeText ['0']
  | positive {first : Char} {others : List Char} (positive : first ≠ '0')
      (digits : AllDigits (first :: others)) : WholeText (first :: others)

/-- The digits behind the point of a number, if there are any. -/
inductive FractionText : List Char → Prop where
  | absent : FractionText []
  | present {digits : List Char} (nonempty : digits ≠ []) (digit : AllDigits digits) :
      FractionText ('.' :: digits)

/-- The power of ten of a number, with its sign, if there is one. -/
inductive PowerText : List Char → Prop where
  | absent : PowerText []
  | present {sign : Char} {digits : List Char} (isSign : sign = '+' ∨ sign = '-')
      (nonempty : digits ≠ []) (digit : AllDigits digits) : PowerText ('e' :: sign :: digits)

/-- The text of a number without its sign. -/
structure Numeral (cs : List Char) : Prop where
  parts : ∃ whole fraction power, WholeText whole ∧ FractionText fraction ∧ PowerText power ∧
    cs = whole ++ fraction ++ power

/-! ## Reading numerals -/

/-- The bytes that may follow the text of a value. -/
def Delimited (rest : List UInt8) : Prop :=
  ∀ byte, rest.head? = some byte → byte = 0x2c ∨ byte = 0x5d ∨ byte = 0x7d

/-- A digit is one byte. -/
theorem encodeChar_digit {c : Char} (digit : c.isDigit = true) :
    Text.Utf8.encodeChar c = [c.toNat.toUInt8] ∧ Reader.isDigit c.toNat.toUInt8 = true := by
  have range : 0x30 ≤ c.toNat ∧ c.toNat ≤ 0x39 := by
    simpa [Char.isDigit, UInt32.le_iff_toNat_le] using digit
  have number : c.toNat.toUInt8.toNat = c.toNat := Text.Utf8.toNat_toUInt8 (by omega)
  constructor
  · exact if_pos (by omega)
  · simp [Reader.isDigit, Reader.digit?, number, range]

/-- The number of a digit other than zero is not zero. -/
theorem digit?_positive {c : Char} (digit : c.isDigit = true) (positive : c ≠ '0') :
    ∃ value, Reader.digit? c.toNat.toUInt8 = some (value + 1) := by
  have range : 0x30 ≤ c.toNat ∧ c.toNat ≤ 0x39 := by
    simpa [Char.isDigit, UInt32.le_iff_toNat_le] using digit
  have number : c.toNat.toUInt8.toNat = c.toNat := Text.Utf8.toNat_toUInt8 (by omega)
  have different : c.toNat ≠ 0x30 := fun same => positive (Char.toNat_inj.mp same)
  refine ⟨c.toNat - 0x31, ?_⟩
  simp only [Reader.digit?, number, range, and_self, if_true]
  exact congrArg some (by omega)

/-- Digits one after another are bytes one after another. -/
theorem encodeChars_digits {c : Char} {cs : List Char} (digits : AllDigits (c :: cs)) :
    encodeChars (c :: cs) = c.toNat.toUInt8 :: encodeChars cs ∧
      Reader.isDigit c.toNat.toUInt8 = true ∧ AllDigits cs := by
  obtain ⟨single, digit⟩ := encodeChar_digit (digits c List.mem_cons_self)
  refine ⟨?_, digit, fun other member => digits other (List.mem_cons_of_mem c member)⟩
  rw [encodeChars, List.flatMap_cons, single, List.singleton_append]
  rfl

/-- What follows digits when no more of them do. -/
def EndsDigits (rest : List UInt8) : Prop :=
  ∀ byte, rest.head? = some byte → Reader.isDigit byte = false

/-- Digits are dropped up to the first byte that is none. -/
theorem dropDigits_digits {cs : List Char} (digits : AllDigits cs) {rest : List UInt8}
    (ends : EndsDigits rest) (count : Nat) :
    Reader.dropDigits count (encodeChars cs ++ rest) =
      (count + (encodeChars cs).length, rest) := by
  induction cs generalizing count with
  | nil =>
    cases rest with
    | nil => rfl
    | cons byte rest => simp [Reader.dropDigits, encodeChars, ends byte rfl]
  | cons c cs ih =>
    obtain ⟨split, digit, others⟩ := encodeChars_digits digits
    rw [split, List.cons_append, Reader.dropDigits, if_pos digit, ih others, List.length_cons,
      Nat.add_assoc, Nat.add_comm 1]

/-- Digits are passed and counted. -/
theorem reads_passDigits {cs : List Char} (digits : AllDigits cs) {rest : List UInt8}
    (ends : EndsDigits rest) :
    Reads Reader.passDigits (encodeChars cs) (encodeChars cs).length rest := by
  intro before
  have dropped := dropDigits_digits digits ends 0
  simp only [Reader.passDigits, Cursor.between, dropped, Nat.zero_add, List.length_append,
    List.append_assoc]
  rfl

namespace Delimited

variable {rest : List UInt8}

/-- No digit follows the text of a value. -/
theorem endsDigits (delimited : Delimited rest) : EndsDigits rest := by
  intro byte shown
  rcases delimited byte shown with rfl | rfl | rfl <;> rfl

/-- No power of ten follows the text of a value. -/
theorem noPower (delimited : Delimited rest) {byte : UInt8} (shown : rest.head? = some byte) :
    Reader.isPowerMark byte = false ∧ byte ≠ 0x2e := by
  rcases delimited byte shown with rfl | rfl | rfl <;> decide

end Delimited

/-- No digit follows in front of a power of ten. -/
theorem PowerText.endsDigits {power : List Char} (isPower : PowerText power) {rest : List UInt8}
    (delimited : Delimited rest) : EndsDigits (encodeChars power ++ rest) := by
  cases isPower with
  | absent => exact delimited.endsDigits
  | present _ _ _ =>
    intro byte shown
    obtain rfl := Option.some.inj shown
    rfl

/-- A power of ten is passed over. -/
theorem reads_skipPower {sign : Char} {digits : List Char} (isSign : sign = '+' ∨ sign = '-')
    (nonempty : digits ≠ []) (digit : AllDigits digits) {rest : List UInt8}
    (ends : EndsDigits rest) :
    Reads Reader.skipPower (encodeChars ('e' :: sign :: digits)) () rest := by
  obtain ⟨first, others, rfl⟩ := List.exists_cons_of_ne_nil nonempty
  obtain ⟨split, isDigit, otherDigits⟩ := encodeChars_digits digit
  have signed : Reads Reader.exponentSign [sign.toNat.toUInt8] (sign == '-')
      (encodeChars (first :: others) ++ rest) := by
    rcases isSign with rfl | rfl <;> exact .peek (.pass (.refl _ _))
  have layout : encodeChars ('e' :: sign :: first :: others) =
      0x65 :: ([sign.toNat.toUInt8] ++ encodeChars (first :: others)) := by
    rcases isSign with rfl | rfl <;> rfl
  rw [layout]
  refine .pass (signed.andThen ?_)
  rw [split]
  refine .next ?_
  simp only [isDigit, if_true]
  exact (reads_passDigits otherDigits ends).bind fun _ => pure ()

/-- A power of ten is passed over if there is one. -/
theorem PowerText.reads_skipPowerOrEnd {power : List Char} (isPower : PowerText power)
    {rest : List UInt8} (delimited : Delimited rest) :
    Reads Reader.skipPowerOrEnd (encodeChars power) () rest := by
  refine .peek ?_
  cases isPower with
  | absent =>
    split
    · next byte shown =>
      simp only [(delimited.noPower shown).1, Bool.false_eq_true, if_false]
      exact .refl _ rest
    · exact .refl _ rest
  | present isSign nonempty digit => exact reads_skipPower isSign nonempty digit delimited.endsDigits

/-- A fraction and a power of ten are passed over as far as there are any. -/
theorem FractionText.reads_skipAfterWhole {fraction power : List Char}
    (isFraction : FractionText fraction) (isPower : PowerText power) {rest : List UInt8}
    (delimited : Delimited rest) :
    Reads Reader.skipAfterWhole (encodeChars (fraction ++ power)) () rest := by
  refine .peek ?_
  cases isFraction with
  | absent =>
    cases isPower with
    | absent =>
      split
      · next byte shown =>
        simp only [delimited.noPower shown, Bool.false_eq_true, if_false]
        exact .refl _ rest
      · exact .refl _ rest
    | present isSign nonempty digit =>
      exact reads_skipPower isSign nonempty digit delimited.endsDigits
  | @present digits nonempty digit =>
    have counted : (encodeChars digits).length ≠ 0 := by
      obtain ⟨first, others, rfl⟩ := List.exists_cons_of_ne_nil nonempty
      rw [(encodeChars_digits digit).1]
      exact Nat.succ_ne_zero _
    have layout : encodeChars ('.' :: digits ++ power) =
        0x2e :: (encodeChars digits ++ encodeChars power) := by
      rw [List.cons_append, ← encodeChars_append]
      rfl
    rw [layout]
    refine .pass ((reads_passDigits digit (isPower.endsDigits delimited)).andThen ?_)
    simp only [counted, if_false]
    exact isPower.reads_skipPowerOrEnd delimited

/-- What follows the digits of a whole number begins with no digit. -/
theorem FractionText.endsDigits {fraction power : List Char} (isFraction : FractionText fraction)
    (isPower : PowerText power) {rest : List UInt8} (delimited : Delimited rest) :
    EndsDigits (encodeChars (fraction ++ power) ++ rest) := by
  cases isFraction with
  | absent => exact isPower.endsDigits delimited
  | present _ _ =>
    intro byte shown
    obtain rfl := Option.some.inj shown
    rfl

/-- A numeral is passed over. -/
theorem Numeral.reads_skipNumeral {cs : List Char} (numeral : Numeral cs) {rest : List UInt8}
    (delimited : Delimited rest) : Reads Reader.skipNumeral (encodeChars cs) () rest := by
  obtain ⟨whole, fraction, power, isWhole, isFraction, isPower, rfl⟩ := numeral.parts
  have ends := isFraction.endsDigits isPower delimited
  have after := isFraction.reads_skipAfterWhole isPower delimited
  rw [List.append_assoc, encodeChars_append]
  cases isWhole with
  | zero =>
    refine .next (.peek ?_)
    split
    · next following shown =>
      simp only [ends following shown, Bool.false_eq_true, if_false]
      exact after
    · exact after
  | @positive first others positive digits =>
    obtain ⟨split, _, otherDigits⟩ := encodeChars_digits digits
    obtain ⟨value, isValue⟩ := digit?_positive (digits first List.mem_cons_self) positive
    rw [split]
    refine .next ?_
    simp only [isValue]
    exact (reads_passDigits otherDigits ends).andThen after

/-! ## The texts of numbers -/

/-- The digits of a number are digits. -/
theorem allDigits_digitsOf (n : Nat) : AllDigits (Number.digitsOf n) :=
  fun _ member => Nat.isDigit_of_mem_toDigits (by decide) (by decide) member

/-- The digits of a positive number do not begin with zero. -/
theorem exists_first_digit {n : Nat} (positive : 0 < n) :
    ∃ first others, Number.digitsOf n = first :: others ∧ first ≠ '0' := by
  induction n using Nat.strongRecOn with
  | ind n ih =>
    simp only [Number.digitsOf] at ih ⊢
    by_cases single : n < 10
    · refine ⟨n.digitChar, [], Nat.toDigits_of_lt_base single, ?_⟩
      have nonzero : ∀ digit < 10, 0 < digit → Nat.digitChar digit ≠ '0' := by decide
      exact nonzero n single positive
    · obtain ⟨first, others, shape, different⟩ := ih (n / 10) (by omega) (by omega)
      refine ⟨first, others ++ [(n % 10).digitChar], ?_, different⟩
      rw [Nat.toDigits_of_base_le (by decide) (by omega), shape, List.cons_append]

/-- The digits of a number are those of a whole number. -/
theorem wholeText_digitsOf (n : Nat) : WholeText (Number.digitsOf n) := by
  by_cases zero : n = 0
  · subst zero
    exact .zero
  · obtain ⟨first, others, shape, different⟩ := exists_first_digit (Nat.pos_of_ne_zero zero)
    have digits := allDigits_digitsOf n
    rw [shape] at digits ⊢
    exact .positive different digits

/-- Digits within digits are digits. -/
theorem AllDigits.subset {cs part : List Char} (digits : AllDigits cs) (within : part ⊆ cs) :
    AllDigits part :=
  fun c member => digits c (within member)

/-- Digits one after another are digits. -/
theorem AllDigits.append {cs more : List Char} (digits : AllDigits cs) (others : AllDigits more) :
    AllDigits (cs ++ more) :=
  fun c member => (List.mem_append.mp member).elim (digits c) (others c)

/-- Zeros are digits. -/
theorem allDigits_zeros (count : Nat) : AllDigits (List.replicate count '0') := by
  intro c member
  rw [List.eq_of_mem_replicate member]
  rfl

/-- A power of ten is written with its sign. -/
theorem powerText_powerText (power : Int) : PowerText ('e' :: powerText power) := by
  have nonempty : Number.digitsOf power.natAbs ≠ [] := Nat.toDigits_ne_nil
  have digits := allDigits_digitsOf power.natAbs
  by_cases below : power < 0
  · simp only [powerText, integerText, below, if_true]
    exact .present (.inr rfl) nonempty digits
  · simp only [powerText, integerText, below, if_false]
    exact .present (.inl rfl) nonempty digits

/-- A positive decimal number with places behind the point is a numeral. -/
theorem numeral_positional {decimal : Number.Decimal} (positive : 0 < decimal.digits)
    (places : decimal.exponent < 0) : Numeral decimal.positional := by
  obtain ⟨first, others, shape, different⟩ := exists_first_digit positive
  have digits := allDigits_digitsOf decimal.digits
  simp only [Number.Decimal.positional, Int.not_le.mpr places, if_false]
  rw [shape] at digits ⊢
  generalize counted : (-decimal.exponent).toNat = count
  have some_place : 0 < count := by omega
  split
  · next shorter =>
    obtain ⟨kept, keptEq⟩ : ∃ kept, (first :: others).length - count = kept + 1 :=
      Nat.exists_eq_succ_of_ne_zero (by omega)
    rw [keptEq, List.take_succ_cons]
    have whole : WholeText (first :: others.take kept) :=
      .positive different (digits.subset (List.cons_subset_cons first (List.take_subset kept others)))
    have behind : (first :: others).drop (kept + 1) ≠ [] := by
      simp only [ne_eq, List.drop_eq_nil_iff]
      omega
    have fraction : FractionText ('.' :: (first :: others).drop (kept + 1)) :=
      .present behind (digits.subset (List.drop_subset _ _))
    exact ⟨_, _, [], whole, fraction, .absent, (List.append_nil _).symm⟩
  · have fraction : FractionText ('.' :: List.replicate (count - (first :: others).length) '0' ++
        (first :: others)) :=
      .present (by simp) ((allDigits_zeros _).append digits)
    exact ⟨['0'], _, [], .zero, fraction, .absent, (List.append_nil _).symm⟩

/-- A positive decimal number without places behind the point is a numeral with a zero there. -/
theorem numeral_positional_point {decimal : Number.Decimal} (positive : 0 < decimal.digits)
    (noPlaces : 0 ≤ decimal.exponent) : Numeral (decimal.positional ++ ['.', '0']) := by
  obtain ⟨first, others, shape, different⟩ := exists_first_digit positive
  have digits := allDigits_digitsOf decimal.digits
  simp only [Number.Decimal.positional, noPlaces, if_true]
  rw [shape] at digits ⊢
  have whole : WholeText (first :: others ++ List.replicate decimal.exponent.toNat '0') :=
    .positive different (digits.append (allDigits_zeros _))
  have fraction : FractionText ['.', '0'] := .present (by decide) (allDigits_zeros 1)
  exact ⟨_, _, [], whole, fraction, .absent, (List.append_nil _).symm⟩

/-- The layouts of a positive decimal number are numerals. -/
theorem numeral_decimalText {decimal : Number.Decimal} (positive : 0 < decimal.digits) :
    Numeral (decimalText decimal) := by
  obtain ⟨first, others, shape, different⟩ := exists_first_digit positive
  have digits := allDigits_digitsOf decimal.digits
  unfold decimalText
  rw [shape] at digits ⊢
  dsimp only
  split
  · next large => exact numeral_positional_point positive large.1
  split
  · next small => exact numeral_positional positive (by omega)
  · have power := powerText_powerText (((first :: others).length : Int) + decimal.exponent - 1)
    cases others with
    | nil =>
      have whole : WholeText [first] := .positive different digits
      exact ⟨[first], [], _, whole, .absent, power, rfl⟩
    | cons second others =>
      have whole : WholeText [first] :=
        .positive different (digits.subset (List.cons_subset_cons first (List.nil_subset _)))
      have fraction : FractionText ('.' :: second :: others) :=
        .present (List.cons_ne_nil second others) (digits.subset (List.subset_cons_self _ _))
      exact ⟨[first], _, _, whole, fraction, power, rfl⟩

/-- The candidates on a grid are positive. -/
theorem digits_onGrid_pos {tie : Number.Tie} {mantissa : Nat} {exponent power : Int}
    {found : Number.Decimal} (isFound : Number.Shortest.onGrid tie mantissa exponent power = some found) :
    0 < found.digits := by
  simp only [Number.Shortest.onGrid] at isFound
  rcases ite_eq_iff.mp isFound with ⟨low, isLow⟩ | ⟨_, isFound⟩
  · obtain rfl := Option.some.inj isLow
    simp only [Bool.and_eq_true, bne_iff_ne] at low
    exact Nat.pos_of_ne_zero low.1.1
  rcases ite_eq_iff.mp isFound with ⟨_, isHigh⟩ | ⟨_, isNone⟩
  · obtain rfl := Option.some.inj isHigh
    exact Nat.succ_pos _
  · cases isNone

/-- The digits of a double that is not zero are those of a positive number. -/
theorem digits_shortest_pos (tie : Number.Tie) {mantissa : Nat} (positive : 0 < mantissa)
    (exponent : Int) : 0 < (Number.shortest tie mantissa exponent).digits := by
  have searched (grids : Nat) (power : Int) {found : Number.Decimal}
      (isFound : Number.Shortest.search tie mantissa exponent grids power = some found) :
      0 < found.digits := by
    induction grids generalizing power with
    | zero => cases isFound
    | succ grids ih =>
      rw [Number.Shortest.search] at isFound
      split at isFound
      · next onGrid => exact digits_onGrid_pos (Option.some.inj isFound ▸ onGrid)
      · exact ih _ isFound
  unfold Number.shortest
  split
  · next found => exact searched _ _ found
  · exact positive

/-- The text of a number: `null`, or a numeral that may have a minus sign. -/
inductive NumberText : List Char → Prop where
  | null : NumberText "null".toList
  | numeral {cs : List Char} (numeral : Numeral cs) : NumberText cs
  | negative {cs : List Char} (numeral : Numeral cs) : NumberText ('-' :: cs)

/-- The digits of a number are a numeral. -/
theorem numeral_digitsOf (n : Nat) : Numeral (Number.digitsOf n) :=
  ⟨_, [], [], wholeText_digitsOf n, .absent, .absent, by simp⟩

/-- The text of every number is a number text. -/
theorem numberText_text (number : Json.Number) : NumberText number.text := by
  cases number with
  | integer value =>
    simp only [Number.text, integerText]
    split
    · exact .negative (numeral_digitsOf _)
    · exact .numeral (numeral_digitsOf _)
  | real value =>
    cases value with
    | finite negative mantissa exponent =>
      have magnitude : Numeral (if mantissa = 0 then ['0', '.', '0']
          else decimalText (Number.shortest .even mantissa exponent)) := by
        split
        · exact ⟨['0'], ['.', '0'], [], .zero, .present (by decide) (allDigits_zeros 1), .absent, rfl⟩
        · next nonzero =>
          exact numeral_decimalText (digits_shortest_pos _ (Nat.pos_of_ne_zero nonzero) _)
      simp only [Number.text, realText]
      split
      · exact .negative magnitude
      · exact .numeral magnitude
    | infinite _ | nan => exact .null

end Sluice.Json
