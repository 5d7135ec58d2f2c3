/-!
# Levels of log lines

Levels from the most severe to the most detailed. A threshold lets through every level that is no
more detailed than itself; one threshold lets through none.
-/

namespace Sluice.Log

/-- How severe or detailed a log line is. -/
inductive Level where
  | error
  | warn
  | info
  | debug
  | trace
  deriving Repr, DecidableEq

namespace Level

/-- How detailed a level is, from one on. -/
def detail : Level → Nat
  | .error => 1
  | .warn => 2
  | .info => 3
  | .debug => 4
  | .trace => 5

/-- The name of a level in capitals. -/
def name : Level → String
  | .error => "ERROR"
  | .warn => "WARN"
  | .info => "INFO"
  | .debug => "DEBUG"
  | .trace => "TRACE"

/-- The name of a level in small letters. -/
def word : Level → String
  | .error => "error"
  | .warn => "warn"
  | .info => "info"
  | .debug => "debug"
  | .trace => "trace"

/-- All levels, from the most detailed to the most severe. -/
def all : List Level := [.trace, .debug, .info, .warn, .error]

end Level

/-- A threshold: the most detailed level that passes, or none at all. -/
abbrev Threshold := Option Level

/-- How much detail a threshold lets through. -/
def Threshold.detail : Threshold → Nat
  | none => 0
  | some level => level.detail

/-- Whether a level passes a threshold. -/
def Threshold.passes (threshold : Threshold) (level : Level) : Bool :=
  level.detail ≤ threshold.detail

end Sluice.Log
