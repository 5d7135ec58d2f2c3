import Sluice.Text.Blank

/-!
# Cutting texts at a separator

Lists in settings and headers are texts with separators. `pieces` keeps every piece, the empty ones
too; `items` keeps what is left of each piece after trimming, unless that is nothing.
-/

namespace Sluice.Text

/-- The pieces between the occurrences of a separator; a text without one is its only piece. -/
def piecesChars (separator : Char) (cs : List Char) : List (List Char) :=
  cs.foldr
    (fun c pieces =>
      if c = separator then [] :: pieces
      else
        match pieces with
        | [] => [[c]]
        | piece :: rest => (c :: piece) :: rest)
    [[]]

/-- The pieces of a text between the occurrences of a separator. -/
def pieces (separator : Char) (text : String) : List String :=
  (piecesChars separator text.toList).map String.ofList

/-- The trimmed pieces of a text that are not blank. -/
def items (separator : Char) (text : String) : List String :=
  (pieces separator text).filterMap trimmed?

/-- What stands before the first separator, and what stands after it if there is one. -/
def cutChars (separator : Char) (cs : List Char) : List Char × Option (List Char) :=
  let rest := cs.dropWhile (· ≠ separator)
  (cs.takeWhile (· ≠ separator), rest.tail?)

/-- The part of a text before the first separator, and the part after it if there is one. -/
def cut (separator : Char) (text : String) : String × Option String :=
  let (before, after) := cutChars separator text.toList
  (String.ofList before, after.map String.ofList)

@[simp] theorem piecesChars_nil (separator : Char) : piecesChars separator [] = [[]] := rfl

theorem piecesChars_ne_nil (separator : Char) (cs : List Char) : piecesChars separator cs ≠ [] := by
  cases cs with
  | nil => simp
  | cons c rest =>
    simp only [piecesChars, List.foldr_cons]
    split
    · simp
    · split <;> simp

theorem piecesChars_separator (separator : Char) (cs : List Char) :
    piecesChars separator (separator :: cs) = [] :: piecesChars separator cs := by
  simp [piecesChars]

/-- A character that is no separator belongs to the first piece. -/
theorem piecesChars_cons_of_ne {separator c : Char} (different : c ≠ separator)
    {rest first : List Char} {others : List (List Char)}
    (shape : piecesChars separator rest = first :: others) :
    piecesChars separator (c :: rest) = (c :: first) :: others := by
  simp only [piecesChars] at shape ⊢
  rw [List.foldr_cons, if_neg different, shape]

/-- Writing the pieces with the separator between them gives the text back. -/
theorem intercalate_piecesChars (separator : Char) (cs : List Char) :
    [separator].intercalate (piecesChars separator cs) = cs := by
  induction cs with
  | nil => rfl
  | cons c rest ih =>
    simp only [piecesChars, List.foldr_cons]
    change [separator].intercalate
      (if c = separator then [] :: piecesChars separator rest
        else match piecesChars separator rest with
          | [] => [[c]]
          | piece :: tail => (c :: piece) :: tail) = c :: rest
    have nonempty := piecesChars_ne_nil separator rest
    revert ih nonempty
    cases piecesChars separator rest with
    | nil => intro _ nonempty; exact absurd rfl nonempty
    | cons piece tail =>
      intro ih _
      split
      · next same => subst same; simp_all [List.intercalate, List.intersperse]
      · cases tail <;> simp_all [List.intercalate, List.intersperse]

end Sluice.Text
