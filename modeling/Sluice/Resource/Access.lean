import Sluice.Resource.Operation
import Sluice.StartError

/-!
# Access to operations

Each resource has two rules, one for its reads and one for its writes. A rule without roles lets
everybody through; otherwise the caller needs any one of its roles.
-/

namespace Sluice.Resource

/-- Names of roles. What matters is which names occur. -/
abbrev Roles := List String

/-- The names in order, each once. -/
def Roles.distinct (roles : Roles) : Roles :=
  (roles.mergeSort fun a b => !(b < a)).eraseDups

/-- The roles that some operations ask for. -/
structure AccessRule where
  operations : List Operation
  roles : Roles
  deriving Repr, DecidableEq

/-- Whether the rule asks for nothing. -/
def AccessRule.isOpen (rule : AccessRule) : Bool :=
  rule.roles.isEmpty

/-- Whether a caller with some roles passes the rule. -/
def AccessRule.permits (rule : AccessRule) (held : Roles) : Bool :=
  rule.isOpen || rule.roles.any held.contains

/-- The outcome of asking for access. -/
inductive Decision where
  | allow
  | deny (reason : String)
  deriving Repr, DecidableEq

/-- The two rules of a resource. -/
structure AccessPolicy where
  reads : AccessRule
  writes : AccessRule
  deriving Repr, DecidableEq

namespace AccessPolicy

/-- Open reads; writes need one of some roles. -/
def writtenBy (roles : Roles) : AccessPolicy where
  reads := ⟨[.fetchOne, .fetchAll], []⟩
  writes := ⟨[.create, .update, .delete], roles.distinct⟩

/-- Reads need the roles of the writes. -/
def restrictReads (policy : AccessPolicy) : AccessPolicy :=
  { policy with reads := { policy.reads with roles := policy.writes.roles } }

/-- Refuses a policy that leaves writes open to everybody. -/
def check (policy : AccessPolicy) (template : String) : Except StartError Unit :=
  if policy.writes.isOpen then .error (.noWriteRoles template) else .ok ()

/-- Whether reads need a role. -/
def readsRestricted (policy : AccessPolicy) : Bool :=
  !policy.reads.isOpen

/-- The rule for an operation. -/
def ruleFor (policy : AccessPolicy) (operation : Operation) : AccessRule :=
  if operation.isRead then policy.reads else policy.writes

/-- Decides whether a caller with some roles may perform an operation; a caller who is not known has
no roles. -/
def authorize (policy : AccessPolicy) (operation : Operation) (held : Roles) : Decision :=
  if (policy.ruleFor operation).permits held then .allow else .deny "missing role"

end AccessPolicy

end Sluice.Resource
