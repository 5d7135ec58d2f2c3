import Sluice.Number.Literal
import Sluice.Proofs.Number.Decimal
import Sluice.Proofs.Text.Parts

/-!
# Texts of numerals

The grammar of numerals apart from the function that reads them: a sign or none, then a word for
infinity or for an undefined number, or digits with an optional point and an optional power of ten.
`Literal.read?_eq_some_iff` says that reading accepts this grammar and nothing else. Letter case does
not matter to it, `Literal.writes_map_toLower_iff`.
-/

namespace Sluice.Number.Literal

/-! ## The grammar -/

/-- The texts of a sign, and whether it is negative; none stands for plus. -/
inductive Sign : List Char → Bool → Prop where
  | none : Sign [] false
  | plus : Sign ['+'] false
  | minus : Sign ['-'] true

/-- The texts of a power of ten behind the digits of a numeral. -/
inductive Power : List Char → Int → Prop where
  | none : Power [] 0
  | written {mark : Char} {sign digits : List Char} {negative : Bool} {n : Nat}
      (isMark : mark.toLower = 'e') (signed : Sign sign negative) (number : Digits digits n) :
      Power (mark :: (sign ++ digits)) (if negative then -n else n)

/-- The texts of a number without a sign, with the significand and the power of ten. There is a digit in
front of the point or behind it. -/
inductive Unsigned : List Char → Nat → Int → Prop where
  | whole {digits power : List Char} {significand : Nat} {exponent : Int}
      (number : Digits digits significand) (raised : Power power exponent) :
      Unsigned (digits ++ power) significand exponent
  | pointed {digits places power : List Char} {significand : Nat} {exponent : Int}
      (number : Digits (digits ++ places) significand) (raised : Power power exponent) :
      Unsigned (digits ++ '.' :: (places ++ power)) significand (exponent - places.length)

/-- The texts of a numeral. -/
inductive Writes : List Char → Literal → Prop where
  | nan {sign word : List Char} {negative : Bool} (signed : Sign sign negative)
      (spelled : word.map Char.toLower = "nan".toList) : Writes (sign ++ word) .nan
  | infinite {sign word : List Char} {negative : Bool} (signed : Sign sign negative)
      (spelled : word.map Char.toLower = "inf".toList ∨
        word.map Char.toLower = "infinity".toList) : Writes (sign ++ word) (.infinite negative)
  | decimal {sign text : List Char} {negative : Bool} {significand : Nat} {exponent : Int}
      (signed : Sign sign negative) (number : Unsigned text significand exponent) :
      Writes (sign ++ text) (.decimal negative significand exponent)

/-! ## Reading digits -/

/-- All digits at the start are read. -/
theorem digits_eq (value count : Nat) (cs : List Char) :
    digits value count cs =
      (Nat.ofDigitChars 10 (cs.takeWhile Char.isDigit) value,
        count + (cs.takeWhile Char.isDigit).length, cs.dropWhile Char.isDigit) := by
  induction cs generalizing value count with
  | nil => rfl
  | cons c rest ih =>
    rw [digits]
    cases read : digit? c with
    | none =>
      have other : ¬ c.isDigit = true := by
        intro isDigit
        rw [digit?_eq_some_iff.mpr ⟨isDigit, rfl⟩] at read
        cases read
      rw [List.takeWhile_cons_of_neg other, List.dropWhile_cons_of_neg other]
      rfl
    | some d =>
      obtain ⟨isDigit, rfl⟩ := digit?_eq_some_iff.mp read
      rw [List.takeWhile_cons_of_pos isDigit, List.dropWhile_cons_of_pos isDigit,
        Nat.ofDigitChars_cons, Nat.mul_comm 10 value, List.length_cons]
      dsimp only
      rw [ih, Nat.add_right_comm, Nat.add_assoc]

/-- Digits are read up to where no further one follows. -/
theorem digits_append {cs rest : List Char} (all : ∀ c ∈ cs, c.isDigit = true)
    (stop : ∀ c ∈ rest.head?, c.isDigit = false) (value count : Nat) :
    digits value count (cs ++ rest) =
      (Nat.ofDigitChars 10 cs value, count + cs.length, rest) := by
  obtain ⟨taken, left⟩ := takeWhile_dropWhile_digits all stop
  rw [digits_eq, taken, left]

/-- A digit is neither a sign nor a point. -/
theorem ne_of_isDigit {c mark : Char} (isDigit : c.isDigit = true) (other : mark.isDigit = false) :
    c ≠ mark := by
  rintro rfl
  rw [isDigit] at other
  cases other

/-- A digit is no letter. -/
theorem not_isAlpha_of_isDigit {c : Char} (isDigit : c.isDigit = true) : c.isAlpha = false := by
  have greatest := (toNat_of_isDigit isDigit).2
  rw [← Bool.not_eq_true, Text.isAlpha_eq_true_iff]
  omega

/-- The letter in front of a power of ten, in either case. -/
theorem toLower_eq_e_iff (c : Char) : c.toLower = 'e' ↔ c = 'e' ∨ c = 'E' := by
  have small : 'e'.toNat = 101 := rfl
  have capital : 'E'.toNat = 69 := rfl
  rw [← Char.toNat_inj, ← Char.toNat_inj, ← Char.toNat_inj, Text.toNat_toLower, small, capital]
  split <;> omega

/-- Digits are all that a text has if nothing is left behind them. -/
theorem digits_iff (cs : List Char) (n : Nat) :
    Digits cs n ↔ (cs.takeWhile Char.isDigit).length ≠ 0 ∧ cs.dropWhile Char.isDigit = [] ∧
      Nat.ofDigitChars 10 (cs.takeWhile Char.isDigit) 0 = n := by
  constructor
  · rintro ⟨nonempty, all, value⟩
    rw [List.takeWhile_eq_self_iff.mpr all, List.dropWhile_eq_nil_iff.mpr all]
    exact ⟨mt List.length_eq_zero_iff.mp nonempty, rfl, value⟩
  · rintro ⟨some, none, value⟩
    have all := List.dropWhile_eq_nil_iff.mp none
    rw [List.takeWhile_eq_self_iff.mpr all] at some value
    exact ⟨mt List.length_eq_zero_iff.mpr some, all, value⟩

/-! ## Reading signs and powers -/

/-- Whether a text starts with something else than a sign. -/
def IsBare (cs : List Char) : Prop :=
  ∀ c ∈ cs.head?, c ≠ '-' ∧ c ≠ '+'

/-- What is read as a sign is one. -/
theorem sign_of_signed (cs : List Char) :
    ∃ sign, Sign sign (signed cs).1 ∧ cs = sign ++ (signed cs).2 := by
  unfold signed
  split
  · exact ⟨['-'], .minus, rfl⟩
  · exact ⟨['+'], .plus, rfl⟩
  · exact ⟨[], .none, rfl⟩

/-- A sign in front of a text without one is read as it is written. -/
theorem signed_append {sign text : List Char} {negative : Bool} (isSign : Sign sign negative)
    (bare : IsBare text) : signed (sign ++ text) = (negative, text) := by
  cases isSign with
  | minus | plus => rfl
  | none =>
    rw [List.nil_append]
    unfold signed
    split
    · exact absurd rfl (bare '-' rfl).1
    · exact absurd rfl (bare '+' rfl).2
    · rfl

/-- Digits start with no sign. -/
theorem isBare_of_digits {cs : List Char} {n : Nat} (number : Digits cs n) : IsBare cs := by
  intro c isFirst
  have isDigit := number.digits c (List.mem_of_mem_head? isFirst)
  exact ⟨ne_of_isDigit isDigit (by decide), ne_of_isDigit isDigit (by decide)⟩

/-- A power of ten is read as it is written. -/
theorem power?_eq_some_iff (cs : List Char) (exponent : Int) :
    power? cs = some exponent ↔ Power cs exponent := by
  constructor
  · intro read
    cases cs with
    | nil =>
      obtain rfl := Option.some.inj read
      exact .none
    | cons mark rest =>
      rw [power?] at read
      split at read
      · next isMark =>
        obtain ⟨sign, isSign, shape⟩ := sign_of_signed rest
        generalize signed rest = parts at read isSign shape
        obtain ⟨negative, text⟩ := parts
        simp only [digits_eq, Nat.zero_add] at read
        split at read
        · cases read
        · next all =>
          obtain rfl := Option.some.inj read
          rw [not_or, not_not] at all
          obtain rfl := shape
          exact .written ((toLower_eq_e_iff mark).mpr isMark) isSign
            ((digits_iff text _).mpr ⟨all.1, all.2, rfl⟩)
      · cases read
  · intro written
    cases written with
    | none => rfl
    | @written mark sign digits negative n isMark isSign number =>
      obtain ⟨some, none, value⟩ := (digits_iff digits n).mp number
      rw [power?, if_pos ((toLower_eq_e_iff mark).mp isMark),
        signed_append isSign (isBare_of_digits number)]
      simp only [digits_eq, Nat.zero_add, value]
      rw [if_neg (not_or.mpr ⟨some, not_not.mpr none⟩)]

/-- A power of ten starts with a letter, if with anything. -/
theorem Power.head {cs : List Char} {exponent : Int} (power : Power cs exponent) :
    ∀ c ∈ cs.head?, c.isDigit = false ∧ c ≠ '.' := by
  cases power with
  | none => rintro _ ⟨⟩
  | written isMark isSign number =>
    rintro _ ⟨⟩
    rcases (toLower_eq_e_iff _).mp isMark with rfl | rfl <;> decide

/-! ## Reading numbers -/

/-- A number without a sign is read as it is written. -/
theorem unsigned?_of_unsigned {cs : List Char} {significand : Nat} {exponent : Int}
    (number : Unsigned cs significand exponent) (negative : Bool) :
    unsigned? negative cs = some (.decimal negative significand exponent) := by
  cases number with
  | @whole digits power _ _ number raised =>
    have read := digits_append number.digits (fun c isFirst => (raised.head c isFirst).1) 0 0
    have some : digits.length ≠ 0 := mt List.length_eq_zero_iff.mp number.nonempty
    unfold unsigned?
    rw [read]
    dsimp only
    split
    -- Behind digits without a point stands a power, which does not start with one.
    · exact absurd rfl (raised.head '.' rfl).2
    · simp only [Nat.zero_add, Nat.add_zero, if_neg some, (power?_eq_some_iff power _).mpr raised,
        number.value, Option.map_some]
      simp
  | @pointed digits places power significand exponent number raised =>
    have front : ∀ c ∈ digits, c.isDigit = true := fun c member =>
      number.digits c (List.mem_append_left _ member)
    have back : ∀ c ∈ places, c.isDigit = true := fun c member =>
      number.digits c (List.mem_append_right _ member)
    have point : ∀ c ∈ ('.' :: (places ++ power)).head?, c.isDigit = false := by
      rintro _ ⟨⟩
      decide
    have value : Nat.ofDigitChars 10 places (Nat.ofDigitChars 10 digits 0) = significand := by
      rw [← Nat.ofDigitChars_append, number.value]
    have some : digits.length + places.length ≠ 0 := by
      rw [← List.length_append]
      exact mt List.length_eq_zero_iff.mp number.nonempty
    have readBack := digits_append back (fun c isFirst => (raised.head c isFirst).1)
      (Nat.ofDigitChars 10 digits 0) 0
    unfold unsigned?
    rw [digits_append front point]
    simp only [readBack, Nat.zero_add, if_neg some, (power?_eq_some_iff power _).mpr raised, value,
      Option.map_some]

/-- What is read as a number without a sign is one. -/
theorem exists_unsigned {cs : List Char} {negative : Bool} {literal : Literal}
    (read : unsigned? negative cs = some literal) :
    ∃ significand exponent, Unsigned cs significand exponent ∧
      literal = .decimal negative significand exponent := by
  have shape : cs.takeWhile Char.isDigit ++ cs.dropWhile Char.isDigit = cs :=
    List.takeWhile_append_dropWhile
  have front : ∀ c ∈ cs.takeWhile Char.isDigit, c.isDigit = true := fun _ => List.mem_takeWhile_imp
  unfold unsigned? at read
  rw [digits_eq] at read
  generalize cs.takeWhile Char.isDigit = digits at read shape front
  generalize cs.dropWhile Char.isDigit = rest at read shape
  subst shape
  dsimp only at read
  -- The digits end at a point, which has digits of its own behind it, or at the power of ten.
  split at read
  · next _ more =>
    have behind : more.takeWhile Char.isDigit ++ more.dropWhile Char.isDigit = more :=
      List.takeWhile_append_dropWhile
    have back : ∀ c ∈ more.takeWhile Char.isDigit, c.isDigit = true :=
      fun _ => List.mem_takeWhile_imp
    rw [digits_eq] at read
    generalize more.takeWhile Char.isDigit = places at read behind back
    generalize more.dropWhile Char.isDigit = power at read behind
    subst behind
    simp only [Nat.zero_add] at read
    split at read
    · cases read
    · next some =>
      obtain ⟨exponent, raised, rfl⟩ := Option.map_eq_some_iff.mp read
      have nonempty : digits ++ places ≠ [] := by
        rwa [← List.length_append, List.length_eq_zero_iff] at some
      have number : Digits (digits ++ places)
          (Nat.ofDigitChars 10 places (Nat.ofDigitChars 10 digits 0)) :=
        ⟨nonempty, List.forall_mem_append.mpr ⟨front, back⟩, Nat.ofDigitChars_append ..⟩
      exact ⟨_, _, .pointed number ((power?_eq_some_iff power exponent).mp raised), rfl⟩
  · simp only [Nat.zero_add, Nat.add_zero] at read
    split at read
    · cases read
    · next some =>
      obtain ⟨exponent, raised, rfl⟩ := Option.map_eq_some_iff.mp read
      have number : Digits digits (Nat.ofDigitChars 10 digits 0) :=
        ⟨mt List.length_eq_zero_iff.mpr some, front, rfl⟩
      exact ⟨_, _, .whole number ((power?_eq_some_iff rest exponent).mp raised), by simp⟩

/-! ## Reading numerals -/

/-- A text spells a word if its letters are those of the word. -/
theorem spells_iff (cs : List Char) (word : String) :
    spells cs word = true ↔ cs.map Char.toLower = word.toList :=
  beq_iff_eq

/-- A number starts with a digit or a point. -/
theorem Unsigned.head {cs : List Char} {significand : Nat} {exponent : Int}
    (number : Unsigned cs significand exponent) :
    ∃ first rest, cs = first :: rest ∧ (first.isDigit = true ∨ first = '.') := by
  cases number with
  | @whole digits power _ _ number raised =>
    obtain ⟨first, later, rfl⟩ := List.exists_cons_of_ne_nil number.nonempty
    exact ⟨first, later ++ power, rfl, .inl (number.digits first List.mem_cons_self)⟩
  | @pointed digits places power _ _ number raised =>
    cases digits with
    | nil => exact ⟨'.', places ++ power, rfl, .inr rfl⟩
    | cons first later =>
      exact ⟨first, later ++ '.' :: (places ++ power), rfl,
        .inl (number.digits first List.mem_cons_self)⟩

/-- A number starts with no sign. -/
theorem Unsigned.isBare {cs : List Char} {significand : Nat} {exponent : Int}
    (number : Unsigned cs significand exponent) : IsBare cs := by
  obtain ⟨first, rest, rfl, digit | rfl⟩ := number.head
  · rintro _ ⟨⟩
    exact ⟨ne_of_isDigit digit (by decide), ne_of_isDigit digit (by decide)⟩
  · rintro _ ⟨⟩
    decide

/-- A text that spells a word starts with no sign if the word does not. -/
theorem isBare_of_spelled {cs : List Char} {word : String} {initial : Char}
    (spelled : cs.map Char.toLower = word.toList) (begins : word.toList.head? = some initial)
    (minus : initial ≠ '-') (plus : initial ≠ '+') : IsBare cs := by
  intro c isFirst
  have small : c.toLower = initial := by
    rw [← spelled, List.head?_map, Option.mem_def.mp isFirst] at begins
    exact Option.some.inj begins
  refine ⟨?_, ?_⟩
  · rintro rfl
    exact minus small.symm
  · rintro rfl
    exact plus small.symm

/-- A number spells no word. -/
theorem Unsigned.spells_eq_false {cs : List Char} {significand : Nat} {exponent : Int}
    (number : Unsigned cs significand exponent) {word : String} {initial : Char}
    (begins : word.toList.head? = some initial) (noDigit : initial.isDigit = false)
    (noPoint : initial ≠ '.') : spells cs word = false := by
  obtain ⟨first, rest, rfl, digit | rfl⟩ := number.head
  · rw [← Bool.not_eq_true, spells_iff]
    intro spelled
    rw [← spelled, List.map_cons, (Text.toLower_eq_iff (not_isAlpha_of_isDigit digit)).mpr rfl]
      at begins
    exact ne_of_isDigit digit noDigit (Option.some.inj begins)
  · rw [← Bool.not_eq_true, spells_iff]
    intro spelled
    rw [← spelled] at begins
    exact noPoint (Option.some.inj begins).symm

/-- A numeral is read as it is written. -/
theorem read?_eq_some_iff (text : String) (literal : Literal) :
    read? text = some literal ↔ Writes text.toList literal := by
  constructor
  · intro read
    obtain ⟨sign, isSign, shape⟩ := sign_of_signed text.toList
    rw [shape]
    unfold read? at read
    generalize signed text.toList = parts at read isSign
    obtain ⟨negative, body⟩ := parts
    dsimp only at read ⊢
    split at read
    · next isNan =>
      obtain rfl := Option.some.inj read
      exact .nan isSign ((spells_iff body _).mp isNan)
    · split at read
      · next isInfinite =>
        obtain rfl := Option.some.inj read
        rw [Bool.or_eq_true, spells_iff, spells_iff] at isInfinite
        exact .infinite isSign isInfinite
      · obtain ⟨significand, exponent, number, rfl⟩ := exists_unsigned read
        exact .decimal isSign number
  · intro written
    have nan : "nan".toList.head? = some 'n' := rfl
    have inf : "inf".toList.head? = some 'i' := rfl
    have infinity : "infinity".toList.head? = some 'i' := rfl
    generalize shape : text.toList = cs at written
    unfold read?
    rw [shape]
    cases written with
    | nan isSign spelled =>
      have bare := isBare_of_spelled spelled nan (by decide) (by decide)
      rw [signed_append isSign bare]
      dsimp only
      rw [if_pos ((spells_iff ..).mpr spelled)]
    | @infinite sign word negative isSign spelled =>
      have bare : IsBare word := by
        rcases spelled with spelled | spelled
        · exact isBare_of_spelled spelled inf (by decide) (by decide)
        · exact isBare_of_spelled spelled infinity (by decide) (by decide)
      have notNan : ¬ spells word "nan" = true := by
        rw [spells_iff]
        rcases spelled with spelled | spelled <;> rw [spelled] <;> decide
      rw [signed_append isSign bare]
      dsimp only
      rw [if_neg notNan, if_pos]
      rwa [Bool.or_eq_true, spells_iff, spells_iff]
    | decimal isSign number =>
      rw [signed_append isSign number.isBare]
      dsimp only
      rw [number.spells_eq_false nan (by decide) (by decide),
        number.spells_eq_false inf (by decide) (by decide),
        number.spells_eq_false infinity (by decide) (by decide)]
      exact unsigned?_of_unsigned number _

/-! ## Letter case -/

/-- A sign has no letters. -/
theorem Sign.plain {sign : List Char} {negative : Bool} (isSign : Sign sign negative) :
    ∀ c ∈ sign, c.isAlpha = false := by
  intro c member
  cases isSign with
  | none => cases member
  | plus | minus =>
    obtain rfl := List.mem_singleton.mp member
    decide

/-- Digits have no letters. -/
theorem plain_of_digits {cs : List Char} {n : Nat} (number : Digits cs n) :
    ∀ c ∈ cs, c.isAlpha = false :=
  fun c member => not_isAlpha_of_isDigit (number.digits c member)

/-- Letter case does not matter to a power of ten. -/
theorem power_map_toLower_iff (cs : List Char) (exponent : Int) :
    Power (cs.map Char.toLower) exponent ↔ Power cs exponent := by
  constructor
  · intro written
    generalize lowered : cs.map Char.toLower = small at written
    cases written with
    | none =>
      obtain rfl := List.map_eq_nil_iff.mp lowered
      exact .none
    | written isMark isSign number =>
      obtain ⟨letter, rest, rfl, rfl, behind⟩ := List.map_eq_cons_iff.mp lowered
      obtain ⟨front, back, rfl, isFront, isBack⟩ := List.map_eq_append_iff.mp behind
      obtain rfl := (Text.map_toLower_eq_iff isSign.plain).mp isFront
      obtain rfl := (Text.map_toLower_eq_iff (plain_of_digits number)).mp isBack
      rw [Text.toLower_toLower] at isMark
      exact .written isMark isSign number
  · intro written
    cases written with
    | none => exact .none
    | written isMark isSign number =>
      rw [List.map_cons, List.map_append, (Text.map_toLower_eq_iff isSign.plain).mpr rfl,
        (Text.map_toLower_eq_iff (plain_of_digits number)).mpr rfl]
      exact .written (by rwa [Text.toLower_toLower]) isSign number

/-- Letter case does not matter to a number without a sign. -/
theorem unsigned_map_toLower_iff (cs : List Char) (significand : Nat) (exponent : Int) :
    Unsigned (cs.map Char.toLower) significand exponent ↔ Unsigned cs significand exponent := by
  constructor
  · intro written
    generalize lowered : cs.map Char.toLower = small at written
    cases written with
    | whole number raised =>
      obtain ⟨front, back, rfl, isFront, rfl⟩ := List.map_eq_append_iff.mp lowered
      obtain rfl := (Text.map_toLower_eq_iff (plain_of_digits number)).mp isFront
      exact .whole number ((power_map_toLower_iff ..).mp raised)
    | pointed number raised =>
      have plain := List.forall_mem_append.mp (plain_of_digits number)
      obtain ⟨front, back, rfl, isFront, isBack⟩ := List.map_eq_append_iff.mp lowered
      obtain ⟨point, rest, rfl, isPoint, behind⟩ := List.map_eq_cons_iff.mp isBack
      obtain ⟨inner, tail, rfl, isInner, rfl⟩ := List.map_eq_append_iff.mp behind
      obtain rfl := (Text.map_toLower_eq_iff plain.1).mp isFront
      obtain rfl := (Text.toLower_eq_iff (by decide)).mp isPoint
      obtain rfl := (Text.map_toLower_eq_iff plain.2).mp isInner
      exact .pointed number ((power_map_toLower_iff ..).mp raised)
  · intro written
    cases written with
    | whole number raised =>
      rw [List.map_append, (Text.map_toLower_eq_iff (plain_of_digits number)).mpr rfl]
      exact .whole number ((power_map_toLower_iff ..).mpr raised)
    | pointed number raised =>
      have plain := List.forall_mem_append.mp (plain_of_digits number)
      rw [List.map_append, List.map_cons, List.map_append,
        (Text.map_toLower_eq_iff plain.1).mpr rfl, (Text.map_toLower_eq_iff plain.2).mpr rfl]
      exact .pointed number ((power_map_toLower_iff ..).mpr raised)

/-- Letter case does not matter to a numeral. -/
theorem writes_map_toLower_iff (cs : List Char) (literal : Literal) :
    Writes (cs.map Char.toLower) literal ↔ Writes cs literal := by
  constructor
  · intro written
    generalize lowered : cs.map Char.toLower = small at written
    cases written with
    | nan isSign spelled =>
      obtain ⟨front, word, rfl, isFront, rfl⟩ := List.map_eq_append_iff.mp lowered
      obtain rfl := (Text.map_toLower_eq_iff isSign.plain).mp isFront
      rw [Text.map_toLower_map_toLower] at spelled
      exact .nan isSign spelled
    | infinite isSign spelled =>
      obtain ⟨front, word, rfl, isFront, rfl⟩ := List.map_eq_append_iff.mp lowered
      obtain rfl := (Text.map_toLower_eq_iff isSign.plain).mp isFront
      rw [Text.map_toLower_map_toLower] at spelled
      exact .infinite isSign spelled
    | decimal isSign number =>
      obtain ⟨front, text, rfl, isFront, rfl⟩ := List.map_eq_append_iff.mp lowered
      obtain rfl := (Text.map_toLower_eq_iff isSign.plain).mp isFront
      exact .decimal isSign ((unsigned_map_toLower_iff ..).mp number)
  · intro written
    cases written with
    | nan isSign spelled =>
      rw [List.map_append, (Text.map_toLower_eq_iff isSign.plain).mpr rfl]
      exact .nan isSign (by rwa [Text.map_toLower_map_toLower])
    | infinite isSign spelled =>
      rw [List.map_append, (Text.map_toLower_eq_iff isSign.plain).mpr rfl]
      exact .infinite isSign (by rwa [Text.map_toLower_map_toLower])
    | decimal isSign number =>
      rw [List.map_append, (Text.map_toLower_eq_iff isSign.plain).mpr rfl]
      exact .decimal isSign ((unsigned_map_toLower_iff ..).mpr number)

end Sluice.Number.Literal
