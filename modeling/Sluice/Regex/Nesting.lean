import Sluice.Regex.Tree

/-!
# How deeply a pattern is nested

Repetitions, groups, alternations, sequences of several parts and sets in brackets nest; single
characters and classes do not. The parts of a pattern are visited from left to right, each before those
within it.
-/

namespace Sluice.Regex

mutual

/-- The first part of a set that is nested more than `depth` levels. -/
def Members.tooDeep? (depth : Nat) : Members → Option Span
  | .bracketed span _ inner =>
    match depth with
    | 0 => some span
    | depth + 1 => inner.tooDeep? depth
  | .union span parts =>
    match depth with
    | 0 => some span
    | depth + 1 => Members.firstTooDeep? depth parts
  | .operation span left right =>
    match depth with
    | 0 => some span
    | depth + 1 => left.tooDeep? depth <|> right.tooDeep? depth
  | .nothing _ | .char _ | .range _ _ _ | .wordClass _ _ | .letterClass _ _ | .property _ => none

/-- The first part of some sets that is nested more than `depth` levels. -/
def Members.firstTooDeep? (depth : Nat) : List Members → Option Span
  | [] => none
  | members :: rest => members.tooDeep? depth <|> Members.firstTooDeep? depth rest

end

mutual

/-- The first part of a pattern that is nested more than `depth` levels. -/
def Tree.tooDeep? (depth : Nat) : Tree → Option Span
  | .set inner => inner.tooDeep? depth
  | .repetition span body | .group span _ body =>
    match depth with
    | 0 => some span
    | depth + 1 => body.tooDeep? depth
  | .sequence span parts | .alternation span parts =>
    match depth with
    | 0 => some span
    | depth + 1 => Tree.firstTooDeep? depth parts
  | .empty _ | .flags _ _ | .primitive _ => none

/-- The first one in some parts of a pattern that is nested more than `depth` levels. -/
def Tree.firstTooDeep? (depth : Nat) : List Tree → Option Span
  | [] => none
  | tree :: rest => tree.tooDeep? depth <|> Tree.firstTooDeep? depth rest

end

end Sluice.Regex
