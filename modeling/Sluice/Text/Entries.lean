/-!
# Values under names

Lists of values under names that stand in the order of the names, each name once. They are built by
setting one name after another, or all at once from pairs in any order. Either way the last value of
a name counts.
-/

namespace Sluice.Entries

variable {α : Type}

/-- Sets the value of a name and keeps the names in order. -/
def set (name : String) (value : α) : List (String × α) → List (String × α)
  | [] => [(name, value)]
  | (other, held) :: rest =>
    if name < other then (name, value) :: (other, held) :: rest
    else if name = other then (name, value) :: rest
    else (other, held) :: set name value rest

/-- The entries that result from setting names one after another. -/
def ofPairs (pairs : List (String × α)) : List (String × α) :=
  pairs.foldl (fun entries pair => set pair.1 pair.2 entries) []

/-- Of the entries with one name that stand together the last. -/
def lastOfEach : List (String × α) → List (String × α)
  | [] => []
  | [entry] => [entry]
  | entry :: next :: rest =>
    if entry.1 = next.1 then lastOfEach (next :: rest) else entry :: lastOfEach (next :: rest)

/-- The entries of pairs that are sorted by their names, those with one name in the order in which
they came. -/
def collect (pairs : List (String × α)) : List (String × α) :=
  lastOfEach (pairs.mergeSort fun first second => first.1 ≤ second.1)

end Sluice.Entries
