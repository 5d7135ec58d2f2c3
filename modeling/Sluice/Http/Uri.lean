import Sluice.Text.Utf8
import Sluice.Text.Percent
import Sluice.Text.Split

/-!
# Request targets

The target of a request is a path with an optional query, or the same behind a scheme and an
authority, or an authority alone. Fragments are dropped. Only the path and the query matter to the
server, so nothing else is kept.
-/

namespace Sluice.Http

/-- The target of a request. -/
structure Uri where
  path : List Char
  query : Option (List Char)
  deriving Repr, DecidableEq

namespace Uri

/-- Whether a character may stand in a path. -/
def isPathChar (c : Char) : Bool :=
  let b := c.toNat
  b == 0x21 || b == 0x22 || (0x24 ≤ b && b ≤ 0x3b) || b == 0x3d || (0x40 ≤ b && b ≤ 0x5f) ||
    (0x61 ≤ b && b ≤ 0x7e) || 0x80 ≤ b

/-- Whether a character may stand in a query. -/
def isQueryChar (c : Char) : Bool :=
  let b := c.toNat
  b == 0x21 || (0x24 ≤ b && b ≤ 0x3b) || b == 0x3d || (0x3f ≤ b && b ≠ 0x7f)

/-- Whether a character may stand in an authority; a percent sign may in some places. -/
def isAuthorityChar (c : Char) : Bool :=
  c.isAlphanum || "!$&'()*+,-.:;=@[]_~".toList.contains c

/-- Whether a character may stand in a scheme. -/
def isSchemeChar (c : Char) : Bool :=
  c.isAlphanum || c == '+' || c == '-' || c == '.' || c == '~'

/-- Reads a path and a query up to a fragment. -/
def pathAndQuery? (cs : List Char) : Option Uri :=
  let body := cs.takeWhile (· ≠ '#')
  let path := body.takeWhile (· ≠ '?')
  let query := (body.dropWhile (· ≠ '?')).tail?
  if path.all isPathChar && (query.getD []).all isQueryChar then
    some ⟨if path.isEmpty then ['/'] else path, query⟩
  else none

/-- What has been seen of an authority. -/
structure AuthorityState where
  colons : Nat
  opened : Bool
  closed : Bool
  percent : Bool
  /-- Whether the last character was an at sign. -/
  behindAt : Bool

/-- One more character of an authority. -/
def AuthorityState.next (state : AuthorityState) (c : Char) : Option AuthorityState :=
  let state' := { state with behindAt := false }
  if c = ':' then
    if state.colons ≥ 8 then none else some { state' with colons := state.colons + 1 }
  else if c = '[' then
    if state.percent || state.opened then none else some { state' with opened := true }
  else if c = ']' then
    if !state.opened || state.closed then none
    else some { state' with closed := true, colons := 0, percent := false }
  else if c = '@' then some { state' with colons := 0, percent := false, behindAt := true }
  else if c = '%' then some { state' with percent := true }
  else if isAuthorityChar c then some state'
  else none

/-- Whether a text is an authority: at most one colon outside the user part and the brackets, matching
brackets, no percent sign in the host and something behind an at sign. -/
def isAuthority (cs : List Char) : Bool :=
  match cs.foldlM AuthorityState.next ⟨0, false, false, false, false⟩ with
  | none => false
  | some state =>
    state.opened == state.closed && state.colons ≤ 1 && !state.behindAt && !state.percent

/-- Whether a character ends an authority. -/
def endsAuthority (c : Char) : Bool := c == '/' || c == '?' || c == '#'

/-- What follows the scheme and its two slashes; none if there is no scheme. -/
def afterScheme? (cs : List Char) : Option (List Char) :=
  let scheme := cs.takeWhile isSchemeChar
  match cs.drop scheme.length with
  | ':' :: '/' :: '/' :: rest => some rest
  | _ => none

/-- The greatest number of bytes of a target. -/
def maxBytes : Nat := 65534

/-- The greatest length of a scheme. -/
def maxScheme : Nat := 64

/-- Reads a request target. -/
def parse? (text : String) : Option Uri :=
  let cs := text.toList
  if text.utf8ByteSize > maxBytes then none
  else
    match cs with
    | [] => none
    | ['*'] => some ⟨['*'], none⟩
    | '/' :: _ => pathAndQuery? cs
    | _ =>
      match afterScheme? cs with
      | some rest =>
        let authority := rest.takeWhile (!endsAuthority ·)
        if (cs.takeWhile isSchemeChar).length ≤ maxScheme && !authority.isEmpty &&
            isAuthority authority then
          pathAndQuery? (rest.drop authority.length)
        else none
      | none => if isAuthority cs then some ⟨[], none⟩ else none

/-- The characters of a form field with plus signs as spaces and escapes decoded. -/
def formText (cs : List Char) : String :=
  let spaced := cs.map fun c => if c = '+' then ' ' else c
  Text.Utf8.repair (Text.Percent.decode (Text.Utf8.encodeChars spaced))

/-- The name and the value of one field of a form. -/
def formPair (piece : List Char) : String × String :=
  let (name, value) := Text.cutChars '=' piece
  (formText name, formText (value.getD []))

/-- The fields of a form, in order; pieces without any character are no fields. -/
def formPairs (query : List Char) : List (String × String) :=
  ((Text.piecesChars '&' query).filter (!·.isEmpty)).map formPair

/-- The fields of the query. -/
def pairs (uri : Uri) : List (String × String) :=
  match uri.query with
  | some query => formPairs query
  | none => []

end Uri

end Sluice.Http
