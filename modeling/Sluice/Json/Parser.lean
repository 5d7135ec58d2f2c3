import Sluice.Json.Skipping

/-!
# Reading JSON values

Any value, with brackets nested up to a limit. In an object with a repeated key the last value
counts.
-/

namespace Sluice.Json

namespace Reader

/-- How many brackets may be open at a time. -/
def nestingLimit : Nat := 127

/-- Reads a value, given how to read the values nested in it; without that, brackets are refused. -/
def valueWith (nested : Option (Reader Json)) : Reader Json := settled do
  match ← look with
  | none => refuseNext .endInValue
  | some byte =>
    if byte = 0x6e then do pass; word (letters "ull"); pure .null
    else if byte = 0x74 then do pass; word (letters "rue"); pure (.bool true)
    else if byte = 0x66 then do pass; word (letters "alse"); pure (.bool false)
    else if byte = 0x2d then do pass; return .number (← numeral true)
    else if isDigit byte then return .number (← numeral false)
    else if byte = 0x22 then do pass; return .text (← text)
    else if byte = 0x5b then
      match nested with
      | none => refuseNext .tooDeep
      | some item => do
        pass
        return .list (← enclosed (items item) leaveList)
    else if byte = 0x7b then
      match nested with
      | none => refuseNext .tooDeep
      | some value => do
        pass
        let member (held : Members) (key : String) : Reader Members := do
          colon
          return held.insert key (← value)
        return .object (← enclosed (members member []) leaveObject)
    else refuseNext .valueExpected

/-- Reads a value with up to a number of open brackets. -/
def valueWithin : Nat → Reader Json
  | 0 => valueWith none
  | depth + 1 => valueWith (some (valueWithin depth))

/-- Reads any value. -/
def value : Reader Json := valueWithin nestingLimit

end Reader

/-- Reads a text as a value. -/
def parse (bytes : List UInt8) : Except Refusal Json :=
  Reader.whole Reader.value bytes

end Sluice.Json
