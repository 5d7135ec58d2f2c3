/-!
# Why a server does not start

Faults in templates, policies, settings and the combination of resources. All of them are found
before any route exists.
-/

namespace Sluice

/-- A fault that is found while a server is put together. -/
inductive StartError where
  | tooFewSegments (template : String)
  | missingIdentifier (template : String)
  | baseSegmentParameterized (template : String)
  | invalidLiteralSegment (template segment : String)
  | duplicateBinding (method path : String)
  | noWriteRoles (template : String)
  | invalidCacheDuration (text : String)
  | invalidSetting (name reason : String)
  deriving Repr, DecidableEq

/-- The wording of a fault. -/
def StartError.message : StartError → String
  | .tooFewSegments template => "too few segments in path template '" ++ template ++ "'"
  | .missingIdentifier template =>
    "missing identifier segment in path template '" ++ template ++ "'"
  | .baseSegmentParameterized template =>
    "base segment itself parameterized in path template '" ++ template ++ "'"
  | .invalidLiteralSegment template segment =>
    "segment '" ++ segment ++ "' in path template '" ++ template ++ "' is not a plain literal"
  | .duplicateBinding method path => "duplicate binding " ++ method ++ " " ++ path
  | .noWriteRoles template =>
    "write operations on '" ++ template ++ "' require at least one role"
  | .invalidCacheDuration text =>
    "invalid cache duration '" ++ text ++ "': expected e.g. '300s', '5m', '1h' or '1d'"
  | .invalidSetting name reason => "invalid setting " ++ name ++ ": " ++ reason

end Sluice
