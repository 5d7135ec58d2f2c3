import Sluice.Regex.Place

/-!
# The parts of a pattern

A pattern is a tree of alternatives, sequences, repetitions and groups over characters, classes and
assertions. Each part knows where it stands, since what is said against a pattern points at its parts.
What a repetition or a group yields does not matter here and is not kept.
-/

namespace Sluice.Regex

/-- A property of matching that a pattern can turn on and off. -/
inductive Flag where
  | ignoreCase
  | manyLines
  | dotMatchesAll
  | swapGreed
  | allScripts
  | carriageReturns
  | ignoreBlanks
  deriving Repr, DecidableEq

/-- The flag of a letter. -/
def Flag.ofLetter? (letter : Char) : Option Flag :=
  [('i', .ignoreCase), ('m', .manyLines), ('s', .dotMatchesAll), ('U', .swapGreed),
    ('u', .allScripts), ('R', .carriageReturns), ('x', Flag.ignoreBlanks)].lookup letter

/-- Flags and whether each is turned on or off. -/
abbrev FlagChanges := List (Flag × Bool)

/-- A flag after some changes. -/
def FlagChanges.apply (changes : FlagChanges) (flag : Flag) (before : Bool) : Bool :=
  (changes.lookup flag).getD before

/-- A character that stands for itself or is denoted by an escape. -/
structure Literal where
  span : Span
  char : Char
  /-- Whether it is given by two digits, so that it may also stand for a byte. -/
  isOctet : Bool
  deriving Repr, DecidableEq

/-- A part of a pattern that has no parts of its own. -/
inductive Primitive where
  | literal (literal : Literal)
  /-- Any character. -/
  | any (span : Span)
  | assertion (span : Span) (aboutWords : Bool)
  /-- Digits, white space or word characters, named by a letter. -/
  | letterClass (span : Span) (negated : Bool)
  /-- Characters with a property, named by a letter. -/
  | property (span : Span)
  deriving Repr, DecidableEq

/-- Where a part without parts stands. -/
def Primitive.span : Primitive → Span
  | .literal c => c.span
  | .any span | .assertion span _ | .letterClass span _ | .property span => span

/-- What a set in brackets is made of. -/
inductive Members where
  | nothing (span : Span)
  | char (literal : Literal)
  | range (span : Span) (low high : Literal)
  /-- A class that is named by a word. -/
  | wordClass (span : Span) (negated : Bool)
  | letterClass (span : Span) (negated : Bool)
  | property (span : Span)
  | bracketed (span : Span) (negated : Bool) (inner : Members)
  | union (span : Span) (parts : List Members)
  /-- What an operation makes of two sets. -/
  | operation (span : Span) (left right : Members)
  deriving Repr

/-- Where the members of a set stand. -/
def Members.span : Members → Span
  | .char c => c.span
  | .nothing span | .range span _ _ | .wordClass span _ | .letterClass span _ | .property span
  | .bracketed span _ _ | .union span _ | .operation span _ _ => span

/-- A part of a pattern. -/
inductive Tree where
  | empty (span : Span)
  | flags (span : Span) (changes : FlagChanges)
  | primitive (primitive : Primitive)
  | set (members : Members)
  | repetition (span : Span) (body : Tree)
  | group (span : Span) (changes : FlagChanges) (body : Tree)
  | sequence (span : Span) (items : List Tree)
  | alternation (span : Span) (branches : List Tree)
  deriving Repr

/-- Where a part stands. -/
def Tree.span : Tree → Span
  | .primitive part => part.span
  | .set inner => inner.span
  | .empty span | .flags span _ | .repetition span _ | .group span _ _ | .sequence span _
  | .alternation span _ => span

end Sluice.Regex
