/-!
# Powers

The two bases that numbers are written and stored in.
-/

namespace Sluice.Number

/-- Two to some power. -/
def twoTo (power : Nat) : Nat := Nat.pow 2 power

/-- Ten to some power. -/
def tenTo (power : Nat) : Nat := Nat.pow 10 power

end Sluice.Number
