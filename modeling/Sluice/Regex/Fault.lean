import Sluice.Regex.Place
import Sluice.Text.Split

/-!
# Why a pattern is refused

A fault names its cause and the part of the pattern that is to blame; some have a second part, to which
the first stands in conflict. A fault is told by repeating the pattern with marks under these parts.
Where the pattern has several lines, they are numbered and stand between rules.
-/

namespace Sluice.Regex

/-- The greatest depth to which the parts of a pattern may be nested. -/
def maxDepth : Nat := 250

/-- Why a pattern is refused. -/
inductive Cause where
  | backreference
  | boundInvalid
  | boundNotCharacter
  | boundaryBraceUnclosed
  | boundaryOrCountUnfinished
  | caseOfAllScripts
  | classOfAllScripts
  | codeInvalid
  | countEmpty
  | countTooLarge
  | countUnclosed
  | digitInvalid
  | escapeUnfinished
  | escapeUnknown
  | escapeWithinSet
  | flagDuplicate
  | flagMissing
  | flagUnknown
  | groupNameDuplicate
  | groupNameEmpty
  | groupNameInvalid
  | groupNameUnclosed
  | groupUnclosed
  | groupUnopened
  | lookAround
  | negationDangling
  | negationDuplicate
  | nesting
  | notText
  | propertyInvalid
  | propertyUnknown
  | repetitionMissing
  | scriptsNotAllowed
  | setUnclosed
  deriving Repr, DecidableEq

/-- The wording of a cause. -/
def Cause.message : Cause → String
  | .backreference => "backreferences are not supported"
  | .boundInvalid => "invalid character class range, the start must be <= the end"
  | .boundNotCharacter => "invalid range boundary, must be a literal"
  | .boundaryBraceUnclosed =>
    "special word boundary assertion is either unclosed or contains an invalid character"
  | .boundaryOrCountUnfinished =>
    "found either the beginning of a special word boundary or a bounded repetition on a \\b " ++
      "with an opening brace, but no closing brace"
  | .caseOfAllScripts =>
    "Unicode-aware case insensitivity matching is not available " ++
      "(make sure the unicode-case feature is enabled)"
  | .classOfAllScripts =>
    "Unicode-aware Perl class not found (make sure the unicode-perl feature is enabled)"
  | .codeInvalid => "hexadecimal literal is not a Unicode scalar value"
  | .countEmpty => "repetition quantifier expects a valid decimal"
  | .countTooLarge => "decimal literal invalid"
  | .countUnclosed => "unclosed counted repetition"
  | .digitInvalid => "invalid hexadecimal digit"
  | .escapeUnfinished => "incomplete escape sequence, reached end of pattern prematurely"
  | .escapeUnknown => "unrecognized escape sequence"
  | .escapeWithinSet => "invalid escape sequence found in character class"
  | .flagDuplicate => "duplicate flag"
  | .flagMissing => "expected flag but got end of regex"
  | .flagUnknown => "unrecognized flag"
  | .groupNameDuplicate => "duplicate capture group name"
  | .groupNameEmpty => "empty capture group name"
  | .groupNameInvalid => "invalid capture group character"
  | .groupNameUnclosed => "unclosed capture group name"
  | .groupUnclosed => "unclosed group"
  | .groupUnopened => "unopened group"
  | .lookAround => "look-around, including look-ahead and look-behind, is not supported"
  | .negationDangling => "dangling flag negation operator"
  | .negationDuplicate => "flag negation operator repeated"
  | .nesting =>
    "exceed the maximum number of nested parentheses/brackets (" ++ toString maxDepth ++ ")"
  | .notText => "pattern can match invalid UTF-8"
  | .propertyInvalid => "invalid Unicode character class"
  | .propertyUnknown => "Unicode property not found"
  | .repetitionMissing => "repetition operator missing expression"
  | .scriptsNotAllowed => "Unicode not allowed here"
  | .setUnclosed => "unclosed character class"

/-- A refusal of a pattern. -/
structure Fault where
  cause : Cause
  /-- The part that is to blame. -/
  span : Span
  /-- An earlier part with which it is in conflict. -/
  earlier : Option Span
  deriving Repr, DecidableEq

namespace Fault

/-- The parts to be marked, in order. -/
def spans (fault : Fault) : List Span :=
  match fault.earlier with
  | none => [fault.span]
  | some earlier =>
    if fault.span.isBefore earlier then [fault.span, earlier] else [earlier, fault.span]

/-- The marks under a line, from left to right; `column` columns have been filled. An empty part is
marked as well. -/
def marksFrom (column : Nat) : List Span → List Char
  | [] => []
  | span :: rest =>
    let gap := span.start.column - 1 - column
    let width := max 1 (span.stop.column - span.start.column)
    List.replicate gap ' ' ++ List.replicate width '^' ++ marksFrom (column + gap + width) rest

/-- The lines of a pattern. What ends a line is not part of it, and neither is a carriage return before
that; behind the last end of a line there is no further line unless it holds something. -/
def linesOf (pattern : List Char) : List (List Char) :=
  let pieces := Text.piecesChars '\n' pattern
  let ended := pieces.dropLast.map fun line =>
    if line.getLast? = some '\r' then line.dropLast else line
  match pieces.getLast? with
  | some [] | none => ended
  | some line => ended ++ [line]

/-- A number in front of its line, filled up from the left to some width. -/
def numbered (width number : Nat) : List Char :=
  let digits := Nat.toDigits 10 number
  List.replicate (width - digits.length) ' ' ++ digits ++ [':', ' ']

/-- A line of the pattern, and the marks below it if parts are marked there. -/
def markedLine (spans : List Span) (heading : List Char) (number : Nat) (line : List Char) :
    List (List Char) :=
  let here := spans.filter fun span => span.isOnOneLine && span.start.line == number
  let marks := List.replicate heading.length ' ' ++ marksFrom 0 here
  (heading ++ line) :: if here.isEmpty then [] else [marks]

/-- The rule above and below several lines. -/
def rule : List Char := List.replicate 79 '~'

/-- Where a part is that spreads over several lines. -/
def extent (span : Span) : String :=
  "on line " ++ toString span.start.line ++ " (column " ++ toString span.start.column ++
    ") through line " ++ toString span.stop.line ++ " (column " ++
    toString (span.stop.column - 1) ++ ")"

/-- What is shown of the pattern, as lines. -/
def shown (fault : Fault) (pattern : List Char) : List (List Char) :=
  let lines := linesOf pattern
  if pattern.contains '\n' then
    let width := (Nat.toDigits 10 (Text.piecesChars '\n' pattern).length).length
    let marked := lines.zipIdx.flatMap fun (line, i) =>
      markedLine fault.spans (numbered width (i + 1)) (i + 1) line
    let extents := (fault.spans.filter (!·.isOnOneLine)).map fun span => (extent span).toList
    rule :: marked ++ rule :: extents
  else lines.flatMap (markedLine fault.spans (List.replicate 4 ' ') 1)

/-- The account of a fault: the pattern with its marks, and the cause. -/
def account (fault : Fault) (pattern : String) : String :=
  let lines := "regex parse error:" :: (fault.shown pattern.toList).map String.ofList ++
    ["error: " ++ fault.cause.message]
  "\n".intercalate lines

end Fault

end Sluice.Regex
