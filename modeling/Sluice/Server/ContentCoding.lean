import Sluice.Http.Response
import Sluice.Text.Split

/-!
# Content codings

A client lists the codings that it accepts, each with a quality from 0 to 1 in thousandths. Of the
codings with the greatest quality the strongest is used; without any the body is sent as it is. Short
bodies and bodies of some types are never coded, whatever the client accepts.
-/

namespace Sluice.Server

/-- A coding or none. -/
abbrev CodingChoice := Option Http.Coding

namespace CodingChoice

/-- How strong a coding is. -/
def strength : CodingChoice → Nat
  | none => 0
  | some .deflate => 1
  | some .gzip => 2
  | some .brotli => 3
  | some .zstandard => 4

/-- The name of a coding in header fields. -/
def codingName : Http.Coding → String
  | .deflate => "deflate"
  | .gzip => "gzip"
  | .brotli => "br"
  | .zstandard => "zstd"

/-- The coding of a name, in any letter case. -/
def ofName? (name : String) : Option CodingChoice :=
  [("gzip", some .gzip), ("x-gzip", some .gzip), ("deflate", some .deflate),
    ("br", some Http.Coding.brotli), ("zstd", some .zstandard), ("identity", none)].lookup
      (name.map Char.toLower)

/-- Adds the thousandths that digits stand for, of which the first counts `weight`. -/
def addFraction (weight value : Nat) : List Char → Option Nat
  | [] => if value ≤ 1000 then some value else none
  | c :: rest =>
    if c.isDigit ∧ 1 ≤ weight then
      addFraction (weight / 10) (value + weight * (c.toNat - '0'.toNat)) rest
    else none

/-- The thousandths of a quality such as `q=0.5`. -/
def quality? (text : String) : Option Nat :=
  match text.toList with
  | mark :: '=' :: whole :: rest =>
    if (mark = 'q' ∨ mark = 'Q') ∧ (whole = '0' ∨ whole = '1') then
      let value := if whole = '1' then 1000 else 0
      match rest with
      | [] => some value
      | '.' :: digits => addFraction 100 value digits
      | _ => none
    else none
  | _ => none

/-- A listed coding with its quality, if both can be read. -/
def listed? (item : String) : Option (CodingChoice × Nat) := do
  let (name, quality) := Text.cut ';' item
  let coding ← ofName? (Text.trim name)
  let thousandths ←
    match quality with
    | some text => quality? (Text.trim text)
    | none => some 1000
  return (coding, thousandths)

/-- The better of two listed codings. -/
def better (best : Option (CodingChoice × Nat)) (next : CodingChoice × Nat) :
    Option (CodingChoice × Nat) :=
  match best with
  | none => some next
  | some held =>
    if held.2 < next.2 ∨ (held.2 = next.2 ∧ strength held.1 ≤ strength next.1) then some next
    else some held

/-- The coding for a client that sends some values of `Accept-Encoding`. -/
def preferred (values : List Http.HeaderValue) : CodingChoice :=
  let items := (values.filterMap (·.text?)).flatMap (Text.pieces ',')
  let accepted := (items.filterMap listed?).filter fun entry => 0 < entry.2
  ((accepted.foldl better none).map (·.1)).getD none

end CodingChoice

/-- The least number of bytes of a body that is worth coding. -/
def minCodedBytes : Nat := 32

/-- The content type of a response, empty if there is none that can be read. -/
def contentType (response : Http.Response) : String :=
  ((response.headers.first? "content-type").bind (·.text?)).getD ""

/-- The beginnings of content types that are not coded, since they are coded already or sent piece by
piece; each with the beginning of those that are coded all the same. -/
def uncodedTypes : List (String × Option String) :=
  [("application/grpc", some "application/grpc-web"), ("image/", some "image/svg+xml"),
    ("text/event-stream", none)]

/-- Whether a content type is one that is not coded. -/
def staysUncoded (media : String) : Bool :=
  let begins (start : String) : Bool := start.toList.isPrefixOf media.toList
  uncodedTypes.any fun (start, exempt) => begins start && !exempt.any begins

/-- Whether the body of a response may be coded. -/
def mayCode (response : Http.Response) : Bool :=
  !response.headers.has "content-encoding" && !response.headers.has "content-range" &&
    (match response.body.size? with
      | some size => minCodedBytes ≤ size
      | none => true) &&
    !staysUncoded (contentType response)

/-- Whether a value of `Vary` names the field that lists codings. -/
def namesCodings (value : Http.HeaderValue) : Bool :=
  let small := value.map fun byte => if 0x41 ≤ byte.toNat ∧ byte.toNat ≤ 0x5a then byte + 0x20 else byte
  let part := Text.Utf8.encode "accept-encoding"
  (List.range (small.length + 1)).any fun start => part.isPrefixOf (small.drop start)

/-- The response as it is sent to a client that accepts some codings. -/
def coded (values : List Http.HeaderValue) (response : Http.Response) : Http.Response :=
  if mayCode response then
    let headers :=
      if (response.headers.all "vary").any namesCodings then response.headers
      else response.headers.append "vary" (.ofText "accept-encoding")
    match CodingChoice.preferred values with
    | none => { response with headers := headers }
    | some coding =>
      { response with
        headers :=
          ((headers.remove "accept-ranges").remove "content-length").setText "content-encoding"
            (CodingChoice.codingName coding)
        body := .coded coding response.body.text }
  else response

end Sluice.Server
