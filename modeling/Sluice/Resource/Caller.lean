import Sluice.Http.Header
import Sluice.Resource.Access
import Sluice.Resource.Failure
import Sluice.Text.Quoted
import Sluice.Text.Split

/-!
# Callers

Who makes a request: a name and roles. Where a deployment trusts the headers of the proxy in front of
it, the caller is read from them. A request without the user header is anonymous whatever its roles
header says. Otherwise the first user and all roles count, and are refused if they cannot be read.
-/

namespace Sluice.Resource

/-- Who makes a request. -/
structure Caller where
  name : String
  roles : Roles
  deriving Repr, DecidableEq

namespace Caller

/-- A caller with some roles, each kept once and in order. -/
def named (name : String) (roles : Roles) : Caller := ⟨name, roles.distinct⟩

/-- The roles of a caller, none for an anonymous request. -/
def rolesOf : Option Caller → Roles
  | some caller => caller.roles
  | none => []

/-- The header that names the user. -/
def userHeader : String := "x-cda-user"

/-- The header that lists roles. -/
def rolesHeader : String := "x-cda-roles"

/-- A failure whose reason the client does not get to see. -/
def refused (reason : String) : Failure := .unauthenticated reason false

/-- The roles in the values of the roles header. -/
def rolesOfValues : List Http.HeaderValue → Except Failure Roles
  | [] => .ok []
  | value :: rest =>
    match value.text? with
    | none => .error (refused "roles header is not valid text")
    | some text => (rolesOfValues rest).map (Text.items ',' text ++ ·)

/-- The caller that the headers of a request name. -/
def ofHeaders (headers : Http.Headers) : Except Failure (Option Caller) :=
  match headers.first? userHeader with
  | none => .ok none
  | some value =>
    match value.text? with
    | none => .error (refused "user header is not valid text")
    | some text =>
      match Text.trimmed? text with
      | none => .error (refused "user header is empty")
      | some name =>
        (rolesOfValues (headers.all rolesHeader)).map fun roles => some (named name roles)

/-- The form of a caller in diagnostics. -/
def debugText (caller : Caller) : String :=
  "Caller \x7b name: " ++ Text.Quoted.quote caller.name ++ ", roles: \x7b" ++
    ", ".intercalate (caller.roles.map Text.Quoted.quote) ++ "\x7d \x7d"

end Caller

end Sluice.Resource
