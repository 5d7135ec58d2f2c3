import Sluice.Regex.Fault
import Sluice.Regex.Tree

/-!
# Which patterns have a meaning

A pattern matches text of all scripts unless a flag turns that off; then it matches bytes, as long as
these are certain to be text. There are no tables of the scripts: the classes of letters, digits and
white space of all scripts are refused, and so is matching in either letter case across scripts. Parts
are visited from left to right, and those within a part before the part itself.
-/

namespace Sluice.Regex

/-- The flags that matter to the meaning, and what has been met so far. -/
structure Sense where
  /-- Whether either letter case matches. -/
  ignoreCase : Bool
  /-- Whether the pattern is about all scripts. -/
  allScripts : Bool
  /-- Whether a boundary of words of all scripts has been met. -/
  hasWordBoundary : Bool
  deriving Repr, DecidableEq

namespace Sense

/-- The sense in which a pattern begins. -/
def initial : Sense := ⟨false, true, false⟩

/-- The sense after some changes of flags. -/
def changed (sense : Sense) (changes : FlagChanges) : Sense :=
  { sense with
    ignoreCase := changes.apply .ignoreCase sense.ignoreCase
    allScripts := changes.apply .allScripts sense.allScripts }

/-- Refuses a part for a cause if a condition holds. -/
def refuseIf (condition : Bool) (cause : Cause) (span : Span) : Except Fault Unit :=
  if condition then .error ⟨cause, span, none⟩ else .ok ()

/-- Checks a class that is named by a letter. Without it a negated class would match bytes that are no
text. -/
def checkLetterClass (sense : Sense) (span : Span) (negated : Bool) : Except Fault Unit := do
  refuseIf sense.allScripts .classOfAllScripts span
  refuseIf negated .notText span

/-- Checks a class of characters with a property. -/
def checkProperty (sense : Sense) (span : Span) : Except Fault Unit :=
  .error ⟨if sense.allScripts then .propertyUnknown else .scriptsNotAllowed, span, none⟩

/-- Whether a character is given as a byte that is no character by itself. -/
def isBareByte (sense : Sense) (literal : Literal) : Bool :=
  !sense.allScripts && literal.isOctet && 128 ≤ literal.char.toNat

/-- Checks a character in a set. -/
def checkMember (sense : Sense) (literal : Literal) : Except Fault Unit := do
  refuseIf (sense.isBareByte literal) .notText literal.span
  refuseIf (!sense.allScripts && 128 ≤ literal.char.toNat) .scriptsNotAllowed literal.span

/-- Whether letter case matters across scripts. -/
def foldsScripts (sense : Sense) : Bool := sense.ignoreCase && sense.allScripts

end Sense

mutual

/-- Whether a set holds characters whose letter case has not been dealt with. Brackets and operations
deal with what is within them. -/
def Members.holdsChars : Members → Bool
  | .char _ | .range _ _ _ => true
  | .union _ parts => Members.anyHoldsChars parts
  | .nothing _ | .wordClass _ _ | .letterClass _ _ | .property _ | .bracketed _ _ _
  | .operation _ _ _ => false

/-- Whether one of some sets holds such characters. -/
def Members.anyHoldsChars : List Members → Bool
  | [] => false
  | members :: rest => members.holdsChars || Members.anyHoldsChars rest

end

mutual

/-- Checks the members of a set. -/
def Members.check (sense : Sense) : Members → Except Fault Unit
  | .nothing _ => .ok ()
  | .char c => sense.checkMember c
  | .range _ low high => do
    sense.checkMember low
    sense.checkMember high
  | .wordClass span negated => do
    Sense.refuseIf sense.foldsScripts .caseOfAllScripts span
    Sense.refuseIf (!sense.allScripts && negated) .notText span
  | .letterClass span negated => sense.checkLetterClass span negated
  | .property span => sense.checkProperty span
  | .bracketed span negated inner => do
    inner.check sense
    Sense.refuseIf (sense.foldsScripts && inner.holdsChars) .caseOfAllScripts span
    Sense.refuseIf (!sense.allScripts && negated) .notText span
  | .union _ parts => Members.checkAll sense parts
  | .operation _ left right => do
    left.check sense
    right.check sense
    Sense.refuseIf (sense.foldsScripts && right.holdsChars) .caseOfAllScripts right.span
    Sense.refuseIf (sense.foldsScripts && left.holdsChars) .caseOfAllScripts left.span

/-- Checks some sets. -/
def Members.checkAll (sense : Sense) : List Members → Except Fault Unit
  | [] => .ok ()
  | members :: rest => do
    members.check sense
    Members.checkAll sense rest

end

/-- Checks a part without parts; the sense after it. -/
def Primitive.check (sense : Sense) : Primitive → Except Fault Sense
  | .literal c => do
    Sense.refuseIf (sense.isBareByte c) .notText c.span
    Sense.refuseIf sense.foldsScripts .caseOfAllScripts c.span
    return sense
  | .any span => do
    Sense.refuseIf (!sense.allScripts) .notText span
    return sense
  | .assertion _ aboutWords =>
    return { sense with
      hasWordBoundary := sense.hasWordBoundary || (aboutWords && sense.allScripts) }
  | .letterClass span negated => do
    sense.checkLetterClass span negated
    return sense
  | .property span => do
    sense.checkProperty span
    return sense

mutual

/-- Checks a part of a pattern; the sense after it. Changes of flags last to the end of their group. -/
def Tree.check (sense : Sense) : Tree → Except Fault Sense
  | .empty _ => .ok sense
  | .flags _ changes => .ok (sense.changed changes)
  | .primitive part => part.check sense
  | .set inner => do
    inner.check sense
    return sense
  | .repetition _ body => body.check sense
  | .group _ changes body => do
    let within ← body.check (sense.changed changes)
    return { sense with hasWordBoundary := within.hasWordBoundary }
  | .sequence _ parts | .alternation _ parts => Tree.checkAll sense parts

/-- Checks parts of a pattern in order; the sense after them. -/
def Tree.checkAll (sense : Sense) : List Tree → Except Fault Sense
  | [] => .ok sense
  | tree :: rest => do
    let sense ← tree.check sense
    Tree.checkAll sense rest

end

end Sluice.Regex
