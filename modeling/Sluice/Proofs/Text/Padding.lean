import Sluice.Proofs.Text.Parts

/-!
# Padding

White space that may be added to a text without changing what is read from it: around the text as a
whole, and in a list with commas around each of its items. A list may also be given more items that are
nothing but white space, wherever in the list. `Padded.trimChars_eq` and `Spread.items_eq` say that none
of this matters.
-/

namespace Sluice.Text

/-- Characters with white space in front of them and behind them. -/
inductive Padded (cs : List Char) : List Char → Prop where
  | intro {before after : List Char} (front : ∀ c ∈ before, isBlank c = true)
      (back : ∀ c ∈ after, isBlank c = true) : Padded cs (before ++ cs ++ after)

/-- A list with commas, and the same list with white space around its items and with blank items. -/
inductive Spread : List Char → List Char → Prop where
  | around {cs more : List Char} (padded : Padded cs more) : Spread cs more
  | comma {front more back further : List Char} (first : Spread front more)
      (second : Spread back further) : Spread (front ++ ',' :: back) (more ++ ',' :: further)
  | blankFirst {gap cs more : List Char} (blank : ∀ c ∈ gap, isBlank c = true)
      (spread : Spread cs more) : Spread cs (gap ++ ',' :: more)
  | blankLast {gap cs more : List Char} (blank : ∀ c ∈ gap, isBlank c = true)
      (spread : Spread cs more) : Spread cs (more ++ ',' :: gap)

/-- White space at the end is trimmed away. -/
theorem trimEndChars_append_of_blank {gap : List Char} (blank : ∀ c ∈ gap, isBlank c = true)
    (cs : List Char) : trimEndChars (cs ++ gap) = trimEndChars cs := by
  have mirrored : ∀ c ∈ gap.reverse, isBlank c = true := fun c member =>
    blank c (List.mem_reverse.mp member)
  rw [trimEndChars, List.reverse_append, List.dropWhile_append_of_pos mirrored, trimEndChars]

/-- White space around characters is trimmed away. -/
theorem Padded.trimChars_eq {cs more : List Char} (padded : Padded cs more) :
    trimChars more = trimChars cs := by
  obtain ⟨front, back⟩ := padded
  rw [← trimStartChars_trimEndChars, trimEndChars_append_of_blank back, trimStartChars_trimEndChars,
    trimChars, trimStartChars_append_of_blank front, trimChars]

/-- The items of a list are what is left of its pieces. -/
theorem items_eq (cs : List Char) :
    items ',' (String.ofList cs) =
      ((piecesChars ',' cs).map trimChars).filterMap fun inner =>
        if (String.ofList inner).isEmpty then none else some (String.ofList inner) := by
  have trimmed : trimmed? ∘ String.ofList = (fun inner : List Char =>
      if (String.ofList inner).isEmpty then none else some (String.ofList inner)) ∘ trimChars := by
    funext piece
    simp only [Function.comp_apply, trimmed?, trim, String.toList_ofList]
  rw [items, pieces, String.toList_ofList, List.filterMap_map, List.filterMap_map, trimmed]

/-- White space around a list does not change its items. -/
theorem Padded.items_eq {cs more : List Char} (padded : Padded cs more) :
    items ',' (String.ofList more) = items ',' (String.ofList cs) := by
  have shown : isBlank ',' = false := by decide
  rw [Text.items_eq, Text.items_eq, ← map_piecesChars_trimChars shown more, padded.trimChars_eq,
    map_piecesChars_trimChars shown]

/-- White space has no items. -/
theorem items_of_blank {gap : List Char} (blank : ∀ c ∈ gap, isBlank c = true) :
    items ',' (String.ofList gap) = [] := by
  have padded : Padded [] (gap ++ [] ++ []) := .intro blank (by simp)
  rw [List.append_nil, List.append_nil] at padded
  rw [padded.items_eq]
  rfl

/-- Neither white space around the items of a list nor blank items change its items. -/
theorem Spread.items_eq {cs more : List Char} (spread : Spread cs more) :
    items ',' (String.ofList more) = items ',' (String.ofList cs) := by
  induction spread with
  | around padded => exact padded.items_eq
  | comma _ _ first second => rw [items_append_comma, items_append_comma, first, second]
  | blankFirst blank _ ih => rw [items_append_comma, items_of_blank blank, ih, List.nil_append]
  | blankLast blank _ ih => rw [items_append_comma, items_of_blank blank, ih, List.append_nil]

end Sluice.Text
