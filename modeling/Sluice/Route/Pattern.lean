import Sluice.Text.Split

/-!
# Route patterns

A pattern of paths is literal text in which parameters stand for one segment or the end of one. A
parameter begins with a colon and its name extends to the next separator. It may stand for nothing
as long as a separator follows; at the end of a pattern it may not. Two patterns that match the
same path differ first where one has a literal character and the other a parameter; there the literal
is preferred.
-/

namespace Sluice.Route

/-- A part of a pattern. -/
inductive Atom where
  | literal (c : Char)
  /-- A parameter: the characters up to the next separator. -/
  | capture (name : List Char)
  deriving Repr, DecidableEq

/-- Whether a part of a pattern is a parameter. -/
def Atom.isCapture : Atom → Bool
  | .literal _ => false
  | .capture _ => true

/-- A pattern of paths. -/
abbrev Pattern := List Atom

/-- The texts that the parameters of a pattern stand for in a path. -/
abbrev Captures := List (List Char × List Char)

namespace Pattern

/-- Reads a pattern, `name` being the reversed name of the parameter at hand. -/
def parseFrom : Option (List Char) → List Char → Option Pattern
  | none, [] => some []
  | some name, [] => if name.isEmpty then none else some [.capture name.reverse]
  | none, c :: rest =>
    if c = '*' then none
    else if c = ':' then parseFrom (some []) rest
    else (parseFrom none rest).map (.literal c :: ·)
  | some name, c :: rest =>
    if c = ':' ∨ c = '*' then none
    else if c = '/' then
      if name.isEmpty then none
      else (parseFrom none rest).map fun pattern => .capture name.reverse :: .literal c :: pattern
    else parseFrom (some (c :: name)) rest

/-- The greatest number of parameters of a pattern. -/
def maxCaptures : Nat := 25

/-- Reads a pattern. A parameter needs a name, and no marks may stand in it; a pattern begins with a
separator and has no more than `maxCaptures` parameters. -/
def parse? (text : String) : Option Pattern :=
  match text.toList with
  | '/' :: rest =>
    ((parseFrom none rest).filter (·.countP Atom.isCapture ≤ maxCaptures)).map (.literal '/' :: ·)
  | _ => none

/-- The texts of the parameters, if a path matches the pattern. -/
def match? : Pattern → List Char → Option Captures
  | [], [] => some []
  | [], _ :: _ => none
  | .literal _ :: _, [] => none
  | .literal c :: pattern, d :: path => if c = d then match? pattern path else none
  | .capture name :: pattern, path =>
    let value := path.takeWhile (· ≠ '/')
    if value.isEmpty && pattern.isEmpty then none
    else (match? pattern (path.dropWhile (· ≠ '/'))).map ((name, value) :: ·)

/-- Whether the first pattern is preferred where both match. Names of parameters do not matter. -/
def preferred : Pattern → Pattern → Bool
  | .literal _ :: _, .capture _ :: _ => true
  | .literal c :: pattern, .literal d :: rest => c == d && preferred pattern rest
  | .capture _ :: pattern, .capture _ :: rest => preferred pattern rest
  | _, _ => false

/-- Whether two patterns cannot stand in one table: they match the same paths. -/
def conflicts : Pattern → Pattern → Bool
  | [], [] => true
  | .literal c :: pattern, .literal d :: rest => c == d && conflicts pattern rest
  | .capture _ :: pattern, .capture _ :: rest => conflicts pattern rest
  | _, _ => false

end Pattern

/-- What is done on the paths of some patterns. -/
abbrev Table (α : Type) := List (Pattern × α)

namespace Table

variable {α : Type}

/-- Adds a pattern, unless it cannot stand next to one that is there. -/
def insert? (table : Table α) (pattern : Pattern) (value : α) : Option (Table α) :=
  if List.any table fun entry => entry.1.conflicts pattern then none
  else some (table ++ [(pattern, value)])

/-- Adds a pattern that is given as text. -/
def insertText? (table : Table α) (entry : String × α) : Option (Table α) :=
  (Pattern.parse? entry.1).bind fun pattern => table.insert? pattern entry.2

/-- The table of some patterns, if all of them can be read and stand together. -/
def build? (entries : List (String × α)) : Option (Table α) :=
  entries.foldlM insertText? []

/-- Prefers one of two matches. -/
def better (found : Option (Pattern × α × Captures)) (entry : Pattern × α) (captures : Captures) :
    Option (Pattern × α × Captures) :=
  match found with
  | some (pattern, value, held) =>
    if entry.1.preferred pattern then some (entry.1, entry.2, captures)
    else some (pattern, value, held)
  | none => some (entry.1, entry.2, captures)

/-- The preferred one of the patterns that match a path. -/
def find? (table : Table α) (path : List Char) : Option (α × Captures) :=
  (table.foldl
    (fun found entry =>
      match entry.1.match? path with
      | some captures => better found entry captures
      | none => found)
    none).map (·.2)

end Table

end Sluice.Route
