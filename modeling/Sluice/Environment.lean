import Sluice.Text.Utf8

/-!
# The environment of a process

Settings may come from the environment, which holds values by name. A name ends at the first equals
sign and a value at the first null character, so not every name and text can be held. What the system
holds need not be a text, as with the names of files; a value that is none is passed over where texts
are asked for.
-/

namespace Sluice

/-- A string of the system: a text, or bytes that spell none. -/
inductive NativeText where
  | text (text : String)
  | bytes (bytes : List UInt8) (unreadable : Text.Utf8.decode? bytes = none)
  deriving Repr, DecidableEq

namespace NativeText

/-- The string of some bytes. -/
def ofBytes (bytes : List UInt8) : NativeText :=
  match isRead : Text.Utf8.decode? bytes with
  | some spelled => .text spelled
  | none => .bytes bytes isRead

/-- The text of a string, if it is one. -/
def text? : NativeText → Option String
  | .text held => some held
  | .bytes _ _ => none

end NativeText

/-- What the environment holds by name. -/
abbrev Environment := String → Option NativeText

namespace Environment

/-- The text under a name; what is no text counts as unset. -/
def text? (environment : Environment) (name : String) : Option String :=
  (environment name).bind NativeText.text?

/-- Whether a text has no null character. -/
def isTerminable (text : String) : Bool := !text.toList.contains '\x00'

/-- Whether an environment can hold a text under a name. -/
def canHold (name text : String) : Bool :=
  !name.isEmpty && !name.toList.contains '=' && isTerminable name && isTerminable text

end Environment

end Sluice
