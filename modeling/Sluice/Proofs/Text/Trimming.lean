import Mathlib.Data.List.TakeWhile
import Sluice.Text.Blank

/-!
# Trimmed texts

What is left of a text after trimming neither begins nor ends with white space (`isTidy_trimChars`), and
trimming leaves such a text alone (`trimChars_of_isTidy`). A trimmed text that is not empty is not blank
either, since it begins with something else.
-/

namespace Sluice.Text

/-- Characters that neither begin nor end with white space. -/
structure IsTidy (cs : List Char) : Prop where
  first : ∀ c ∈ cs.head?, isBlank c = false
  last : ∀ c ∈ cs.getLast?, isBlank c = false

theorem isTidy_nil : IsTidy [] := by
  constructor <;> simp

theorem isTidy_singleton {c : Char} (kept : isBlank c = false) : IsTidy [c] := by
  constructor <;> simpa using kept

/-- What is left in front of nothing is not white space. -/
theorem isBlank_head?_trimStartChars (cs : List Char) :
    ∀ c ∈ (trimStartChars cs).head?, isBlank c = false := by
  intro c isFirst
  have kept := List.head?_dropWhile_not isBlank cs
  rw [Option.mem_def] at isFirst
  rw [trimStartChars] at isFirst
  simpa [isFirst] using kept

/-- Trimming the end keeps a beginning. -/
theorem trimEndChars_prefix (cs : List Char) : trimEndChars cs <+: cs := by
  have behind : cs.reverse.dropWhile isBlank <:+ cs.reverse := List.dropWhile_suffix isBlank
  simpa [trimEndChars] using List.reverse_prefix.mpr behind

/-- Trimmed characters are tidy. -/
theorem isTidy_trimChars (cs : List Char) : IsTidy (trimChars cs) where
  first := by
    intro c isFirst
    apply isBlank_head?_trimStartChars cs
    obtain ⟨rest, shape⟩ := List.head?_eq_some_iff.mp isFirst
    obtain ⟨behind, whole⟩ := trimEndChars_prefix (trimStartChars cs)
    rw [← whole]
    change trimEndChars (trimStartChars cs) = c :: rest at shape
    rw [shape]
    rfl
  last := by
    intro c isLast
    apply isBlank_head?_trimStartChars (trimStartChars cs).reverse
    rw [trimChars, trimEndChars, List.getLast?_reverse] at isLast
    exact isLast

/-- Nothing is taken from tidy characters. -/
theorem trimStartChars_of_first {cs : List Char} (first : ∀ c ∈ cs.head?, isBlank c = false) :
    trimStartChars cs = cs := by
  cases cs with
  | nil => rfl
  | cons c rest =>
    have kept : isBlank c = false := first c rfl
    rw [trimStartChars, List.dropWhile_cons_of_neg (by simp [kept])]

theorem trimEndChars_of_last {cs : List Char} (last : ∀ c ∈ cs.getLast?, isBlank c = false) :
    trimEndChars cs = cs := by
  have mirrored : trimStartChars cs.reverse = cs.reverse :=
    trimStartChars_of_first (by rwa [List.head?_reverse])
  rw [trimEndChars]
  rw [trimStartChars] at mirrored
  rw [mirrored, List.reverse_reverse]

theorem trimChars_of_isTidy {cs : List Char} (tidy : IsTidy cs) : trimChars cs = cs := by
  rw [trimChars, trimStartChars_of_first tidy.first, trimEndChars_of_last tidy.last]

/-- White space in front is trimmed away. -/
theorem trimStartChars_append_of_blank {gap : List Char} (blank : ∀ c ∈ gap, isBlank c = true)
    (cs : List Char) : trimStartChars (gap ++ cs) = trimStartChars cs := by
  rw [trimStartChars, List.dropWhile_append_of_pos blank, trimStartChars]

/-- What is trimmed away in front is white space. -/
theorem exists_blank_trimStartChars (cs : List Char) :
    ∃ gap, (∀ c ∈ gap, isBlank c = true) ∧ cs = gap ++ trimStartChars cs :=
  ⟨cs.takeWhile isBlank, fun _ => List.mem_takeWhile_imp,
    (List.takeWhile_append_dropWhile (p := isBlank)).symm⟩

/-- Nothing but white space in front is taken from a list whose end is tidy. -/
theorem trimChars_of_last {cs : List Char} (last : ∀ c ∈ cs.getLast?, isBlank c = false) :
    trimChars cs = trimStartChars cs := by
  obtain ⟨gap, _, whole⟩ := exists_blank_trimStartChars cs
  rw [trimChars, trimEndChars_of_last]
  intro c isLast
  apply last
  rw [Option.mem_def] at isLast
  rw [whole, List.getLast?_append, isLast]
  rfl

end Sluice.Text
