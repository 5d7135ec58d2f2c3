import Sluice.Regex.Meaning
import Sluice.Regex.Nesting
import Sluice.Regex.Parser

/-!
# Patterns that can be matched

A pattern can be matched if it can be read, is not nested too deeply and has a meaning; and an automaton
must be able to decide it, which cannot tell where words of all scripts begin and end.
-/

namespace Sluice.Regex

/-- Why a pattern cannot be matched. -/
inductive PatternFault where
  | refused (pattern : String) (fault : Fault)
  | needsWordBoundary
  deriving Repr, DecidableEq

/-- The wordings of a fault and of the faults behind it. -/
def PatternFault.chain : PatternFault → List String
  | .refused pattern fault =>
    ["error building NFA", "error parsing regex", fault.account pattern]
  | .needsWordBoundary =>
    ["unsupported regex feature for DFAs: cannot build DFAs for regexes with Unicode word " ++
      "boundaries; switch to ASCII word boundaries, or heuristically enable Unicode word " ++
      "boundaries or use a different regex engine"]

/-- Reads a pattern and checks its depth and its meaning; the sense in which it ends. -/
def examine (pattern : List Char) : Except Fault Sense := do
  let tree ← Tree.parse pattern
  match tree.tooDeep? maxDepth with
  | some span => .error ⟨.nesting, span, none⟩
  | none => tree.check .initial

/-- Why a pattern cannot be matched, if so. -/
def fault? (pattern : String) : Option PatternFault :=
  match examine pattern.toList with
  | .error fault => some (.refused pattern fault)
  | .ok sense => if sense.hasWordBoundary then some .needsWordBoundary else none

end Sluice.Regex
