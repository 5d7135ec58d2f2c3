/-!
# Runs of letters

Tables of letter case list runs of characters that all lie at one distance from their counterpart.
-/

namespace Sluice.Text

/-- Every `step`-th character from `first` to `last`, each at distance `shift` from its counterpart. -/
structure CaseRun where
  first : Nat
  last : Nat
  step : Nat
  shift : Int
  deriving Repr, DecidableEq

/-- Whether a character code belongs to the run. -/
def CaseRun.covers (run : CaseRun) (code : Nat) : Bool :=
  run.first ≤ code && code ≤ run.last && (code - run.first) % run.step == 0

/-- The counterpart of a character under the first run that covers it; others stay as they are. -/
def CaseRun.apply (runs : List CaseRun) (c : Char) : Char :=
  match runs.find? (·.covers c.toNat) with
  | some run => Char.ofNat (Int.toNat (c.toNat + run.shift))
  | none => c

end Sluice.Text
