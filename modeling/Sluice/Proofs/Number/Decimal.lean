import Mathlib.Data.List.TakeWhile
import Sluice.Number.Reading

/-!
# Texts of whole numbers

A text writes a number with decimal digits, zeros in front allowed, and may have a plus sign in front of
them. `Number.readNatural_eq_ok_iff` says that reading finds the number that is written and accepts
nothing else: with the bound tested digit by digit, it refuses exactly the numbers that exceed it.
-/

namespace Sluice.Number

/-- Decimal digits, at least one, for a number. -/
structure Digits (cs : List Char) (n : Nat) : Prop where
  nonempty : cs ≠ []
  digits : ∀ c ∈ cs, c.isDigit = true
  value : Nat.ofDigitChars 10 cs 0 = n

/-- A text writes a number: as digits or as a plus sign and digits. -/
def Writes (text : String) (n : Nat) : Prop :=
  ∃ cs, Digits cs n ∧ (text.toList = cs ∨ text.toList = '+' :: cs)

/-- The digits are those of ASCII. -/
theorem digit?_eq_some_iff {c : Char} {d : Nat} :
    digit? c = some d ↔ c.isDigit = true ∧ c.toNat - '0'.toNat = d := by
  have same : '0' ≤ c ∧ c ≤ '9' ↔ c.isDigit = true := by
    simp only [Char.isDigit, Bool.and_eq_true, decide_eq_true_eq]
    rfl
  simp only [digit?, same, Option.ite_none_right_eq_some, Option.some.injEq]

/-- The code of a digit lies between those of zero and nine. -/
theorem toNat_of_isDigit {c : Char} (isDigit : c.isDigit = true) : 48 ≤ c.toNat ∧ c.toNat ≤ 57 := by
  simp only [Char.isDigit, Bool.and_eq_true, decide_eq_true_eq, ge_iff_le, UInt32.le_iff_toNat_le]
    at isDigit
  exact isDigit

/-- Digits end where no digit follows. -/
theorem takeWhile_dropWhile_digits {digits rest : List Char}
    (all : ∀ c ∈ digits, c.isDigit = true) (stop : ∀ c ∈ rest.head?, c.isDigit = false) :
    (digits ++ rest).takeWhile Char.isDigit = digits ∧
      (digits ++ rest).dropWhile Char.isDigit = rest := by
  rw [List.takeWhile_append_of_pos all, List.dropWhile_append_of_pos all]
  cases rest with
  | nil => simp
  | cons c later =>
    have kept : ¬ c.isDigit = true := by simp [stop c rfl]
    rw [List.takeWhile_cons_of_neg kept, List.dropWhile_cons_of_neg kept, List.append_nil]
    exact ⟨rfl, rfl⟩

/-- Where digits have been read, no further one follows. -/
theorem head?_dropWhile_digits (cs : List Char) :
    ∀ c ∈ (cs.dropWhile Char.isDigit).head?, c.isDigit = false := by
  intro c isFirst
  have kept := List.head?_dropWhile_not Char.isDigit cs
  rw [Option.mem_def] at isFirst
  simpa [isFirst] using kept

/-- A number is written with its digits. -/
theorem digits_toString (n : Nat) : Digits (toString n).toList n := by
  have written : (toString n).toList = Nat.toDigits 10 n := Nat.toList_repr
  rw [written]
  constructor
  case nonempty => exact Nat.toDigits_ne_nil
  case digits => exact fun c member => Nat.isDigit_of_mem_toDigits (by decide) (by decide) member
  case value => exact Nat.ofDigitChars_toDigits (by decide) (by decide)

/-- Digits read after a number make no smaller number of it. -/
theorem le_ofDigitChars (cs : List Char) (init : Nat) : init ≤ Nat.ofDigitChars 10 cs init := by
  rw [Nat.ofDigitChars_eq_ofDigitChars_zero]
  have positive : 0 < 10 ^ cs.length := Nat.pow_pos (by decide)
  have scaled : init ≤ 10 ^ cs.length * init := Nat.le_mul_of_pos_left init positive
  omega

/-- Reading digits after a number yields the number that all of them write, unless it exceeds the bound.
-/
theorem readDigits_eq_ok_iff {bound value result : Nat} {excess : ReadFault} {cs : List Char}
    (start : value ≤ bound) :
    readDigits bound excess value cs = .ok result ↔
      (∀ c ∈ cs, c.isDigit = true) ∧ Nat.ofDigitChars 10 cs value = result ∧ result ≤ bound := by
  induction cs generalizing value with
  | nil =>
    simp only [readDigits, Except.ok.injEq, List.not_mem_nil, false_implies, implies_true,
      Nat.ofDigitChars_nil, true_and]
    constructor
    · rintro rfl
      exact ⟨rfl, start⟩
    · exact And.left
  | cons c rest ih =>
    simp only [readDigits, List.forall_mem_cons]
    cases read : digit? c with
    | none =>
      have wrong : ¬ c.isDigit = true := by
        intro isDigit
        rw [digit?_eq_some_iff.mpr ⟨isDigit, rfl⟩] at read
        cases read
      simp [wrong]
    | some d =>
      obtain ⟨isDigit, rfl⟩ := digit?_eq_some_iff.mp read
      have next : Nat.ofDigitChars 10 (c :: rest) value =
          Nat.ofDigitChars 10 rest (value * 10 + (c.toNat - '0'.toNat)) := by
        rw [Nat.ofDigitChars_cons, Nat.mul_comm]
      dsimp only
      rw [next]
      by_cases exceeds : bound < value * 10 + (c.toNat - '0'.toNat)
      · -- What has been read is too large already, and what follows cannot make it smaller.
        have least := le_ofDigitChars rest (value * 10 + (c.toNat - '0'.toNat))
        rw [if_pos exceeds]
        simp only [reduceCtorEq, false_iff]
        rintro ⟨_, rfl, within⟩
        omega
      · rw [if_neg exceeds, ih (by omega)]
        simp [isDigit]

/-- A plus sign is no digit. -/
theorem plus_not_isDigit : '+'.isDigit = false := by
  decide

/-- Reading yields the number that a text writes, unless it exceeds the bound. -/
theorem readNatural_eq_ok_iff {bound n : Nat} {text : String} :
    readNatural bound text = .ok n ↔ Writes text n ∧ n ≤ bound := by
  have read {cs : List Char} (nonempty : cs ≠ []) :
      readDigits bound .tooLarge 0 cs = .ok n ↔ Digits cs n ∧ n ≤ bound := by
    rw [readDigits_eq_ok_iff (Nat.zero_le bound), ← and_assoc]
    exact and_congr_left' ⟨fun is => ⟨nonempty, is.1, is.2⟩, fun is => ⟨is.digits, is.value⟩⟩
  have unsigned {first : Char} {rest cs : List Char} (digits : Digits cs n)
      (same : first :: rest = cs) : first ≠ '+' := by
    rintro rfl
    have isDigit := digits.digits '+' (same ▸ List.mem_cons_self)
    rw [plus_not_isDigit] at isDigit
    cases isDigit
  unfold readNatural Writes
  split
  · next empty =>
    rw [empty]
    simp only [reduceCtorEq, false_iff, not_and]
    rintro ⟨cs, digits, rfl | same⟩
    · exact absurd rfl digits.nonempty
    · cases same
  · next sign =>
    rw [sign]
    simp only [reduceCtorEq, false_iff, not_and]
    rintro ⟨cs, digits, same | same⟩
    · exact absurd rfl (unsigned digits same)
    · exact absurd (List.cons_eq_cons.mp same).2.symm digits.nonempty
  · next cs nonempty shape =>
    rw [shape, read nonempty]
    constructor
    · rintro ⟨digits, within⟩
      exact ⟨⟨cs, digits, .inr rfl⟩, within⟩
    · rintro ⟨⟨other, digits, same | same⟩, within⟩
      · exact absurd rfl (unsigned digits same)
      · rw [(List.cons_eq_cons.mp same).2]
        exact ⟨digits, within⟩
  · next nonempty _ noSign =>
    rw [read nonempty]
    constructor
    · rintro ⟨digits, within⟩
      exact ⟨⟨_, digits, .inl rfl⟩, within⟩
    · rintro ⟨⟨cs, digits, same | same⟩, within⟩
      · exact ⟨same ▸ digits, within⟩
      · exact absurd same (noSign cs)

/-- Digits alone are read as the number that they write. -/
theorem readNatural_ofList_iff {bound n : Nat} {cs : List Char}
    (digits : ∀ c ∈ cs, c.isDigit = true) :
    readNatural bound (String.ofList cs) = .ok n ↔ Digits cs n ∧ n ≤ bound := by
  rw [readNatural_eq_ok_iff]
  refine and_congr_left' ⟨?_, fun written => ⟨cs, written, .inl String.toList_ofList⟩⟩
  rintro ⟨other, written, same | same⟩
  · rw [String.toList_ofList] at same
    exact same ▸ written
  · rw [String.toList_ofList] at same
    have isDigit := digits '+' (same ▸ List.mem_cons_self)
    rw [plus_not_isDigit] at isDigit
    cases isDigit

end Sluice.Number
