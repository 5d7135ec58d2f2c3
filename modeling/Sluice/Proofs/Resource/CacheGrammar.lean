import Sluice.Proofs.Number.Decimal
import Sluice.Proofs.Text.Trimming
import Sluice.Proofs.Text.Utf8
import Sluice.Resource.CacheRule

/-!
# Texts of cache rules

A cache rule is written as a number with an optional letter for its unit, with white space between the
two and around them. `CacheRule.parse_eq_ok_iff` says that reading finds the rule that is written, and
`CacheRule.parse_eq_error_iff` that every other text is refused under its trimmed form. What a rule says
in the header of an answer is always fit for one (`CacheRule.headerValue_eq`): it is written with
characters that may stand there.
-/

namespace Sluice.Resource

/-- The letters of the units; none stands for seconds. -/
inductive TimeUnit.Written : List Char → TimeUnit → Prop
  | bare : Written [] .seconds
  | seconds : Written ['s'] .seconds
  | minutes : Written ['m'] .minutes
  | hours : Written ['h'] .hours
  | days : Written ['d'] .days

/-- The unit of a suffix is the one for which it stands. -/
theorem TimeUnit.ofSuffix?_eq_some_iff {suffix : List Char} {unit : TimeUnit} :
    TimeUnit.ofSuffix? suffix = some unit ↔ TimeUnit.Written suffix unit := by
  constructor
  · intro found
    unfold ofSuffix? at found
    split at found
    · obtain rfl := Option.some.inj found
      exact .bare
    · obtain rfl := Option.some.inj found
      exact .seconds
    · obtain rfl := Option.some.inj found
      exact .minutes
    · obtain rfl := Option.some.inj found
      exact .hours
    · obtain rfl := Option.some.inj found
      exact .days
    · cases found
  · intro written
    cases written <;> rfl

/-- A suffix begins with no digit and is not surrounded by white space. -/
theorem TimeUnit.Written.tidy {suffix : List Char} {unit : TimeUnit}
    (written : TimeUnit.Written suffix unit) :
    (∀ c ∈ suffix.head?, c.isDigit = false) ∧ Text.IsTidy suffix := by
  cases written with
  | bare => exact ⟨by simp, Text.isTidy_nil⟩
  | _ => exact ⟨by simp, Text.isTidy_singleton (by decide)⟩

/-- How many seconds a unit has. -/
inductive TimeUnit.Lasts : TimeUnit → Nat → Prop
  | seconds : Lasts .seconds 1
  | minutes : Lasts .minutes 60
  | hours : Lasts .hours 3600
  | days : Lasts .days 86400

theorem TimeUnit.lasts_inSeconds (unit : TimeUnit) : unit.Lasts unit.inSeconds := by
  cases unit <;> constructor

namespace CacheRule

/-- A text writes a rule: between white space stand digits for a number of 64 bits, then perhaps white
space, then perhaps the letter of a unit. -/
def Writes (text : String) (rule : CacheRule) : Prop :=
  ∃ digits gap suffix, Text.trimChars text.toList = digits ++ gap ++ suffix ∧
    Number.Digits digits rule.duration ∧ rule.duration ≤ Number.max64 ∧
      (∀ c ∈ gap, Text.isBlank c = true) ∧ TimeUnit.Written suffix rule.unit

/-- White space is no digit. -/
theorem not_isDigit_of_isBlank {c : Char} (blank : Text.isBlank c = true) : c.isDigit = false := by
  rw [← Bool.not_eq_true]
  intro isDigit
  have range := Number.toNat_of_isDigit isDigit
  simp only [Text.isBlank, Bool.or_eq_true, Bool.and_eq_true, decide_eq_true_eq, beq_iff_eq] at blank
  omega

/-- A digit is no white space. -/
theorem isBlank_of_isDigit {c : Char} (isDigit : c.isDigit = true) : Text.isBlank c = false := by
  rw [← Bool.not_eq_true]
  intro blank
  rw [not_isDigit_of_isBlank blank] at isDigit
  cases isDigit

/-- Behind the digits of a rule stands no further digit. -/
theorem head?_not_isDigit {gap suffix : List Char} {unit : TimeUnit}
    (blank : ∀ c ∈ gap, Text.isBlank c = true) (written : TimeUnit.Written suffix unit) :
    ∀ c ∈ (gap ++ suffix).head?, c.isDigit = false := by
  cases gap with
  | nil => exact written.tidy.1
  | cons first rest =>
    rintro c ⟨⟩
    exact not_isDigit_of_isBlank (blank first List.mem_cons_self)

/-- What is read as digits, and what is left behind them. -/
theorem parse_of_parts {text : String} {digits rest : List Char}
    (shape : Text.trimChars text.toList = digits ++ rest)
    (all : ∀ c ∈ digits, c.isDigit = true) (stop : ∀ c ∈ rest.head?, c.isDigit = false)
    (rule : CacheRule) :
    parse text = .ok rule ↔
      (Number.Digits digits rule.duration ∧ rule.duration ≤ Number.max64) ∧
        TimeUnit.Written (Text.trimChars rest) rule.unit := by
  obtain ⟨taken, left⟩ := Number.takeWhile_dropWhile_digits all stop
  simp only [parse, shape, taken, left]
  rw [← Number.readNatural_ofList_iff all, ← TimeUnit.ofSuffix?_eq_some_iff]
  cases Number.readNatural Number.max64 (String.ofList digits) with
  | error fault => simp
  | ok duration =>
    cases TimeUnit.ofSuffix? (Text.trimChars rest) with
    | none => simp
    | some unit =>
      obtain ⟨ruleDuration, ruleUnit⟩ := rule
      simp

/-- A text is read as the rule that it writes. -/
theorem parse_eq_ok_iff (text : String) (rule : CacheRule) :
    parse text = .ok rule ↔ Writes text rule := by
  constructor
  · intro parsed
    let cs := Text.trimChars text.toList
    have shape : Text.trimChars text.toList =
        cs.takeWhile Char.isDigit ++ cs.dropWhile Char.isDigit :=
      List.takeWhile_append_dropWhile.symm
    have read := (parse_of_parts shape (fun _ => List.mem_takeWhile_imp)
      (Number.head?_dropWhile_digits cs) rule).mp parsed
    -- The end of what is left is the end of the trimmed text, so only white space in front goes.
    have last : ∀ c ∈ (cs.dropWhile Char.isDigit).getLast?, Text.isBlank c = false := by
      intro c isLast
      apply (Text.isTidy_trimChars text.toList).last
      rw [Option.mem_def] at isLast
      rw [shape, List.getLast?_append, isLast]
      rfl
    obtain ⟨gap, blank, whole⟩ := Text.exists_blank_trimStartChars (cs.dropWhile Char.isDigit)
    rw [Text.trimChars_of_last last] at read
    refine ⟨_, gap, _, ?_, read.1.1, read.1.2, blank, read.2⟩
    rw [List.append_assoc, ← whole, ← shape]
  · rintro ⟨digits, gap, suffix, shape, number, within, blank, written⟩
    rw [List.append_assoc] at shape
    have suffixed : Text.trimChars (gap ++ suffix) = suffix := by
      rw [Text.trimChars, Text.trimStartChars_append_of_blank blank, ← Text.trimChars,
        Text.trimChars_of_isTidy written.tidy.2]
    rw [parse_of_parts shape number.digits (head?_not_isDigit blank written), suffixed]
    exact ⟨⟨number, within⟩, written⟩

/-- A text that writes no rule is refused, with what is left of it after trimming. -/
theorem parse_eq_error_iff (text : String) (fault : StartError) :
    parse text = .error fault ↔
      (∀ rule, ¬ Writes text rule) ∧ fault = .invalidCacheDuration (Text.trim text) := by
  have refused (fault : StartError) (isError : parse text = .error fault) :
      fault = .invalidCacheDuration (Text.trim text) := by
    simp only [parse] at isError
    split at isError
    · exact (Except.error.inj isError).symm
    · split at isError
      · exact (Except.error.inj isError).symm
      · cases isError
  constructor
  · intro isError
    refine ⟨fun rule written => ?_, refused fault isError⟩
    rw [(parse_eq_ok_iff text rule).mpr written] at isError
    cases isError
  · rintro ⟨unwritten, rfl⟩
    cases parsed : parse text with
    | ok rule => exact absurd ((parse_eq_ok_iff text rule).mp parsed) (unwritten rule)
    | error other => rw [refused other parsed]

/-! ## Headers -/

/-- The bytes of a printable character of ASCII may stand in the value of a field. -/
theorem isValueByte_of_printable {c : Char} (least : 32 ≤ c.toNat) (greatest : c.toNat < 127) :
    ∀ byte ∈ Text.Utf8.encodeChar c, Http.isValueByte byte = true := by
  intro byte member
  have single : Text.Utf8.encodeChar c = [c.toNat.toUInt8] := if_pos (by omega)
  rw [single, List.mem_singleton] at member
  have number : byte.toNat = c.toNat := by
    rw [member, Text.Utf8.toNat_toUInt8 (by omega)]
  simp only [Http.isValueByte, number, Bool.or_eq_true, Bool.and_eq_true, decide_eq_true_eq]
  exact .inl ⟨least, by omega⟩

/-- What a rule says is the value of a field. -/
theorem headerValue_eq (rule : CacheRule) : rule.headerValue = .ofText rule.headerText := by
  have printable : ∀ c ∈ rule.headerText.toList, 32 ≤ c.toNat ∧ c.toNat < 127 := by
    intro c member
    rw [headerText, String.toList_append, List.mem_append] at member
    rcases member with label | digit
    · have all : ("max-age=".toList.all fun c => 32 ≤ c.toNat && c.toNat < 127) = true := by decide
      simpa using List.all_eq_true.mp all c label
    · have range :=
        Number.toNat_of_isDigit ((Number.digits_toString rule.maxAge).digits c digit)
      omega
  have fit : (Http.HeaderValue.ofText rule.headerText).all Http.isValueByte = true := by
    rw [List.all_eq_true]
    intro byte member
    obtain ⟨c, inText, isByte⟩ := List.mem_flatMap.mp member
    exact isValueByte_of_printable (printable c inText).1 (printable c inText).2 byte isByte
  rw [headerValue, if_pos fit]

/-! ## Rules -/

/-- A number with the letter of a unit behind it writes the rule of that duration. -/
theorem writes_toString {n : Nat} {suffix : List Char} {unit : TimeUnit} (within : n ≤ Number.max64)
    (written : TimeUnit.Written suffix unit) :
    Writes (toString n ++ String.ofList suffix) ⟨n, unit⟩ := by
  have number := Number.digits_toString n
  have unpadded : Text.trimChars (toString n ++ String.ofList suffix).toList =
      (toString n).toList ++ suffix := by
    rw [String.toList_append, String.toList_ofList]
    apply Text.trimChars_of_isTidy
    constructor
    case first =>
      intro c isFirst
      rw [List.head?_append, Option.mem_def, Option.or_eq_some_iff] at isFirst
      rcases isFirst with inNumber | ⟨_, inSuffix⟩
      · exact isBlank_of_isDigit (number.digits c (List.mem_of_mem_head? inNumber))
      · exact written.tidy.2.first c inSuffix
    case last =>
      intro c isLast
      rw [List.getLast?_append, Option.mem_def, Option.or_eq_some_iff] at isLast
      rcases isLast with inSuffix | ⟨_, inNumber⟩
      · exact written.tidy.2.last c inSuffix
      · exact isBlank_of_isDigit (number.digits c (List.mem_of_getLast? inNumber))
  refine ⟨(toString n).toList, [], suffix, ?_, number, within, by simp, written⟩
  rw [unpadded, List.append_nil]

/-- How a text is read as a rule. -/
structure IsReadByGrammar (text : String) : Prop where
  accepted : ∀ rule, parse text = .ok rule ↔ Writes text rule
  /-- What writes no rule is refused under its trimmed form. -/
  refused : ∀ fault, parse text = .error fault ↔
    (∀ rule, ¬ Writes text rule) ∧ fault = .invalidCacheDuration (Text.trim text)

/-- How a rule is told to clients and written for the server. -/
structure IsTold (rule : CacheRule) : Prop where
  /-- The age is the duration in seconds, at most what 64 bits hold. -/
  age : ∃ seconds, rule.unit.Lasts seconds ∧
    rule.maxAge = min (rule.duration * seconds) Number.max64
  header : rule.headerValue = .ofText ("max-age=" ++ toString rule.maxAge)
  /-- The digits of the duration with a letter for the unit behind them are read as the rule. -/
  readBack : rule.duration ≤ Number.max64 → ∀ suffix, TimeUnit.Written suffix rule.unit →
    parse (toString rule.duration ++ String.ofList suffix) = .ok rule

/-- A text is read exactly if it writes a rule, as the rule that it writes, and is otherwise refused
under its trimmed form. The age of a rule is its duration in seconds, at most what 64 bits hold, and the
header of an answer says that number. What a number of 64 bits makes with the letter of a unit behind it
is read as the rule of that duration. -/
theorem cache_rule_grammar (text : String) (rule : CacheRule) :
    IsReadByGrammar text ∧ rule.IsTold := by
  refine ⟨⟨parse_eq_ok_iff text, parse_eq_error_iff text⟩,
    ⟨⟨rule.unit.inSeconds, rule.unit.lasts_inSeconds, rfl⟩, rule.headerValue_eq, ?readBack⟩⟩
  case readBack =>
    intro within suffix written
    exact (parse_eq_ok_iff _ _).mpr (writes_toString within written)

end CacheRule

end Sluice.Resource
