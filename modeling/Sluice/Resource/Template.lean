import Sluice.StartError
import Sluice.Text.Split

/-!
# Path templates

A template is a run of literal segments followed by one identifier segment, such as
`/location/category/{category-id}`. Segments stand between separators; empty ones do not count, so
separators may lead, trail and be doubled. An identifier segment is a name between braces or between
angle brackets.
-/

namespace Sluice.Resource

/-- A path template that has been checked. -/
structure Template where
  /-- The template as it was given. -/
  text : String
  /-- The part before the identifier segment. -/
  collection : String
  /-- The identifier segment with its delimiters. -/
  identifierSegment : String
  /-- The name between the delimiters. -/
  identifierName : String
  deriving Repr, DecidableEq

namespace Template

/-- The segments of a path: what stands between its separators, without the empty ones. -/
def segmentChars (cs : List Char) : List (List Char) :=
  (Text.piecesChars '/' cs).filter (!·.isEmpty)

/-- The segments of a path. -/
def segmentsOf (text : String) : List String :=
  (segmentChars text.toList).map String.ofList

/-- The name between the delimiters of an identifier segment. -/
def delimitedName? (segment : List Char) : Option (List Char) :=
  let between (opening closing : Char) : Option (List Char) :=
    match segment with
    | first :: rest =>
      if first = opening ∧ rest.getLast? = some closing then some rest.dropLast else none
    | [] => none
  match between '\x7b' '\x7d' with
  | some name => some name
  | none => between '<' '>'

/-- Whether a character has a meaning of its own in a segment. -/
def isSpecial (c : Char) : Bool :=
  c == ':' || c == '*' || c == '\x7b' || c == '\x7d' || c == '<' || c == '>'

/-- Whether a segment is plain text. -/
def isLiteral (segment : List Char) : Bool :=
  !segment.any isSpecial

/-- Whether one list begins with another. -/
def beginsWith (start : List Char) (cs : List Char) : Bool :=
  start.isPrefixOf cs

/-- How many characters precede the last occurrence of a part, searched from `position` on. -/
def lastOccurrence (part : List Char) (position : Nat) (found : Option Nat) :
    List Char → Option Nat
  | [] => if part.isEmpty then some position else found
  | c :: rest =>
    lastOccurrence part (position + 1)
      (if beginsWith part (c :: rest) then some position else found) rest

/-- Checks a template. The identifier is the last segment, so the part before it ends where that
segment occurs last. -/
def validate (text : String) : Except StartError Template :=
  let cs := text.toList
  match (segmentChars cs).reverse with
  | last :: base :: earlier =>
    match delimitedName? last with
    | none => .error (.missingIdentifier text)
    | some [] => .error (.missingIdentifier text)
    | some (n :: ame) =>
      if !isLiteral base then .error (.baseSegmentParameterized text)
      else
        match earlier.reverse.find? (!isLiteral ·) with
        | some segment => .error (.invalidLiteralSegment text (String.ofList segment))
        | none =>
          let before := (lastOccurrence last 0 none cs).getD cs.length
          .ok
            { text
              collection := String.ofList (cs.take before)
              identifierSegment := String.ofList last
              identifierName := String.ofList (n :: ame) }
  | _ => .error (.tooFewSegments text)

/-- Segments as a path. -/
def joined (segments : List String) : String :=
  "/" ++ "/".intercalate segments

/-- The segments of the template. -/
def segments (template : Template) : List String :=
  segmentsOf template.text

/-- The path of an item in its normal form. -/
def itemPath (template : Template) : String :=
  joined template.segments

/-- The path of the collection without a separator at its end. -/
def routeCollection (template : Template) : String :=
  joined (segmentsOf template.collection)

/-- The path of the collection in its normal form. -/
def collectionPath (template : Template) : String :=
  template.routeCollection ++ "/"

/-- The path of an item with the identifier segment as a parameter of the router. -/
def routeItem (template : Template) : String :=
  joined (template.segments.dropLast ++ [":" ++ template.identifierName])

end Template

end Sluice.Resource
