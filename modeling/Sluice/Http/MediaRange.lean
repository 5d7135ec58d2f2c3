import Sluice.Http.Header
import Sluice.Number.Literal
import Sluice.Text.Split

/-!
# Media ranges

The `Accept` field lists ranges of media types, separated by commas, each with parameters behind
semicolons. A range with quality zero is refused. Only the question whether JSON is accepted matters
here.
-/

namespace Sluice.Http

/-- A range of media types with its parameters. -/
structure MediaRange where
  /-- The range without parameters, in small letters. -/
  media : String
  /-- The parameters that have a value. -/
  parameters : List (String × String)
  deriving Repr, DecidableEq

namespace MediaRange

/-- The name and the value of a parameter, if it has a value. -/
def parameter? (part : String) : Option (String × String) :=
  let (name, value) := Text.cut '=' part
  value.map fun value => (Text.trim name, Text.trim value)

/-- Reads one range. -/
def parse (range : String) : MediaRange :=
  let parts := (Text.pieces ';' range).map Text.trim
  { media := (parts.headD "").map Char.toLower
    parameters := parts.tail.filterMap parameter? }

/-- Whether a quality excludes the range: a numeral whose single-precision value is at most zero. -/
def isZeroQuality (value : String) : Bool :=
  match Number.Literal.read? value with
  | some literal => literal.atMostZeroInSingle
  | none => false

/-- Whether the range has a quality that excludes it. -/
def isExcluded (range : MediaRange) : Bool :=
  range.parameters.any fun (name, value) =>
    name.map Char.toLower == "q" && isZeroQuality value

/-- Whether a subtype of `application` is JSON or a format built on it. -/
def isJsonSubtype (subtype : String) : Bool :=
  subtype == "*" || subtype == "json" || "+json".toList.isSuffixOf subtype.toList

/-- Whether a media type in small letters is JSON or covers it. -/
def coversJson (media : String) : Bool :=
  let (type, subtype) := Text.cut '/' media
  subtype.any fun subtype =>
    (type == "*" && subtype == "*") || (type == "application" && isJsonSubtype subtype)

/-- Whether the range covers JSON and is not excluded. -/
def acceptsJson (range : MediaRange) : Bool :=
  !range.isExcluded && coversJson range.media

/-- The ranges in the values of a field, those that are blank left out. -/
def listed (values : List String) : List String :=
  values.flatMap (Text.items ',')

/-- Whether some values of the `Accept` field admit JSON; no range at all admits everything. -/
def admitJson (values : List String) : Bool :=
  let ranges := listed values
  ranges.isEmpty || ranges.any fun range => (parse range).acceptsJson

end MediaRange

end Sluice.Http
