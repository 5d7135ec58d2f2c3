import Sluice.StartError

/-!
# Why a server cannot be started with its settings

Besides the faults that are found while resources are put together, settings can contradict each
other, and the host and the port can fail to be an address.
-/

namespace Sluice.Server

/-- Why a server cannot be started. -/
inductive StartFault where
  | refused (error : StartError)
  /-- More connections are to be kept open than may be open. -/
  | poolBounds (least greatest : Nat)
  /-- The host and the port are no address. -/
  | badAddress
  deriving Repr, DecidableEq

/-- The wording of a fault. -/
def StartFault.message : StartFault → String
  | .refused error => error.message
  | .poolBounds least greatest =>
    "Database min_connections (" ++ toString least ++
      ") cannot be greater than max_connections (" ++ toString greatest ++ ")"
  | .badAddress => "invalid socket address syntax"

end Sluice.Server
