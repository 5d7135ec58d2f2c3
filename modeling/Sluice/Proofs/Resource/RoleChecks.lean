import Sluice.Proofs.Resource.Access

/-!
# Checks of roles

A policy starts from the roles that writes need, with open reads, and its reads may be restricted any
number of times (`AccessPolicy.Built`). However it came about, it asks for the roles of writes or, for
reads that were never restricted, for none (`Built.mem_roles_ruleFor_iff`). What is decided under it
follows from that. `AccessPolicy.role_checks_gated` puts together what a policy promises: more roles
never allow less, and a policy that passes its check lets nobody write without a role.
-/

namespace Sluice.Resource

/-- A caller has one of the roles that a rule asks for. -/
def AccessRule.IsMetBy (rule : AccessRule) (held : Roles) : Prop :=
  ∃ role ∈ rule.roles, role ∈ held

/-- More roles meet every rule that fewer meet. -/
theorem AccessRule.IsMetBy.mono {rule : AccessRule} {held more : Roles} (met : rule.IsMetBy held)
    (among : held ⊆ more) : rule.IsMetBy more := by
  obtain ⟨role, asked, has⟩ := met
  exact ⟨role, asked, among has⟩

namespace AccessPolicy

/-- A rule of a policy covers an operation. -/
def Covers (policy : AccessPolicy) (rule : AccessRule) (operation : Operation) : Prop :=
  (rule = policy.reads ∨ rule = policy.writes) ∧ operation ∈ rule.operations

/-- The policies that some roles for writes give; whether reads were restricted tells the two kinds
apart. -/
inductive Built (roles : Roles) : (restricted : Bool) → AccessPolicy → Prop where
  | writtenBy : Built roles false (.writtenBy roles)
  | restrictReads {restricted : Bool} {policy : AccessPolicy} (built : Built roles restricted policy) :
      Built roles true policy.restrictReads

/-- What is promised by a policy that passes its check. -/
structure IsGated (policy : AccessPolicy) (roles : Roles) (restricted : Bool) : Prop where
  /-- Nobody writes without a role. -/
  writes : ∀ operation, operation.isRead = false →
    policy.authorize operation [] = .deny "missing role"
  /-- Nobody reads without a role exactly if reads were restricted. -/
  reads : ∀ operation, operation.isRead = true →
    (policy.authorize operation [] = .deny "missing role" ↔ restricted = true)
  /-- Any one of the roles is enough for everything. -/
  single : ∀ role ∈ roles, ∀ operation, policy.authorize operation [role] = .allow
  /-- Reads that were restricted are decided like writes. -/
  alike : restricted = true → ∀ held operation other,
    policy.authorize operation held = policy.authorize other held

variable {roles : Roles} {restricted : Bool} {policy : AccessPolicy}

/-- Reads that need the roles of writes already need them still. -/
theorem restrictReads_restrictReads (policy : AccessPolicy) :
    policy.restrictReads.restrictReads = policy.restrictReads := rfl

/-- The decision asks whether the rule of the operation is open or met. -/
theorem authorize_eq_allow_iff_isMetBy (policy : AccessPolicy) (operation : Operation)
    (held : Roles) :
    policy.authorize operation held = .allow ↔
      (policy.ruleFor operation).roles = [] ∨ (policy.ruleFor operation).IsMetBy held :=
  authorize_eq_allow_iff policy operation held

/-- More roles never allow less. -/
theorem authorize_mono {operation : Operation} {held more : Roles} (among : held ⊆ more)
    (allowed : policy.authorize operation held = .allow) :
    policy.authorize operation more = .allow := by
  rw [authorize_eq_allow_iff_isMetBy] at allowed ⊢
  exact allowed.imp_right fun met => met.mono among

/-- Callers who meet the rule of an operation alike are decided alike. -/
theorem authorize_of_isMetBy_iff {operation : Operation} {held other : Roles}
    (alike : (policy.ruleFor operation).IsMetBy held ↔ (policy.ruleFor operation).IsMetBy other) :
    policy.authorize operation held = policy.authorize operation other := by
  apply authorize_congr
  rw [authorize_eq_allow_iff_isMetBy, authorize_eq_allow_iff_isMetBy, alike]

namespace Built

/-- The operations of the two rules stay what they were. -/
theorem operations (built : Built roles restricted policy) :
    policy.reads.operations = [.fetchOne, .fetchAll] ∧
      policy.writes.operations = [.create, .update, .delete] := by
  induction built with
  | writtenBy => exact ⟨rfl, rfl⟩
  | restrictReads _ ih => exact ih

/-- Restricting reads leaves the rule for writes alone. -/
theorem roles_writes (built : Built roles restricted policy) :
    policy.writes.roles = roles.distinct := by
  induction built with
  | writtenBy => rfl
  | restrictReads _ ih => exact ih

/-- Reads need the roles of writes once they have been restricted, and none before. -/
theorem roles_reads (built : Built roles restricted policy) :
    policy.reads.roles = if restricted then roles.distinct else [] := by
  cases built with
  | writtenBy => rfl
  | restrictReads built => exact built.roles_writes

/-- Once reads have been restricted, restricting them again changes nothing. -/
theorem restrictReads_eq (built : Built roles true policy) : policy.restrictReads = policy := by
  cases built with
  | restrictReads _ => exact restrictReads_restrictReads _

/-- The rule that decides about an operation is the only one that covers it. -/
theorem covers_iff (built : Built roles restricted policy) {rule : AccessRule}
    {operation : Operation} : policy.Covers rule operation ↔ rule = policy.ruleFor operation := by
  obtain ⟨reads, writes⟩ := built.operations
  unfold Covers ruleFor
  constructor
  · rintro ⟨rfl | rfl, covered⟩
    · rw [reads] at covered
      cases operation <;> simp_all [Operation.isRead]
    · rw [writes] at covered
      cases operation <;> simp_all [Operation.isRead]
  · rintro rfl
    cases operation <;> simp [Operation.isRead, reads, writes]

/-- The roles that an operation needs. -/
theorem mem_roles_ruleFor_iff (built : Built roles restricted policy) {operation : Operation}
    {role : String} :
    role ∈ (policy.ruleFor operation).roles ↔
      (operation.isRead = true → restricted = true) ∧ role ∈ roles := by
  unfold ruleFor
  cases operation.isRead with
  | false => simp [built.roles_writes, Roles.mem_distinct]
  | true => cases restricted <;> simp [built.roles_reads, Roles.mem_distinct]

/-- Writes are open exactly if they need no role. -/
theorem isOpen_writes_iff (built : Built roles restricted policy) :
    policy.writes.isOpen = true ↔ roles = [] := by
  rw [AccessRule.isOpen, built.roles_writes, List.isEmpty_iff, List.eq_nil_iff_forall_not_mem,
    List.eq_nil_iff_forall_not_mem]
  simp only [Roles.mem_distinct]

/-- The check passes exactly if there is a role that writes need. -/
theorem check_eq_ok_iff (built : Built roles restricted policy) (template : String) :
    policy.check template = .ok () ↔ roles ≠ [] := by
  rw [check]
  split
  · next opened => simp [built.isOpen_writes_iff.mp opened]
  · next closed => simp [mt built.isOpen_writes_iff.mpr closed]

/-- Reads that were never restricted are open to everybody, whether or not there are roles. -/
theorem authorize_of_unrestricted (built : Built roles false policy) {operation : Operation}
    (isRead : operation.isRead = true) (held : Roles) :
    policy.authorize operation held = .allow := by
  rw [AccessPolicy.authorize_eq_allow_iff, ruleFor, if_pos isRead, built.roles_reads]
  exact .inl rfl

/-- Where there are roles, an operation is allowed to everybody if it is a read and reads were never
restricted, and otherwise to whom has one of the roles. -/
theorem authorize_eq_allow_iff (built : Built roles restricted policy) (some_role : roles ≠ [])
    (operation : Operation) (held : Roles) :
    policy.authorize operation held = .allow ↔
      (operation.isRead = true ∧ restricted = false) ∨ ∃ role ∈ roles, role ∈ held := by
  obtain ⟨guard, isGuard⟩ := List.exists_mem_of_ne_nil _ some_role
  rw [authorize_eq_allow_iff_isMetBy, AccessRule.IsMetBy]
  simp only [built.mem_roles_ruleFor_iff, List.eq_nil_iff_forall_not_mem]
  by_cases opened : operation.isRead = true ∧ restricted = false
  · simp [opened]
  · have needs : (operation.isRead = true → restricted = true) ↔ True := by
      simpa using opened
    have closed : ¬ ∀ role, role ∉ roles := fun none => none guard isGuard
    simp only [needs, true_and, closed, opened, false_or]

/-- A policy that passes its check keeps what is promised. -/
theorem isGated (built : Built roles restricted policy) (some_role : roles ≠ []) :
    policy.IsGated roles restricted := by
  have allowed := built.authorize_eq_allow_iff some_role
  constructor
  case writes =>
    intro operation isWrite
    rw [authorize_eq_deny_iff, ne_eq, allowed]
    simp [isWrite]
  case reads =>
    intro operation isRead
    rw [authorize_eq_deny_iff, ne_eq, allowed]
    simp [isRead]
  case single =>
    intro role required operation
    exact (allowed operation [role]).mpr (.inr ⟨role, required, List.mem_singleton_self role⟩)
  case alike =>
    rintro rfl held operation other
    apply authorize_congr
    rw [allowed, allowed]
    simp

end Built

/-- Under every policy, however often its reads were restricted, more roles never allow less, and who
asks matters only by whether the roles of the one rule that covers the operation are met. Restricting
reads again changes nothing. If the policy passes its check, nobody writes without a role, nobody reads
without one exactly if reads were restricted, any one required role is enough for everything, and reads
that were restricted are decided like writes. -/
theorem role_checks_gated {roles : Roles} {restricted : Bool} {policy : AccessPolicy}
    (built : Built roles restricted policy) :
    (∀ operation held more, held ⊆ more → policy.authorize operation held = .allow →
        policy.authorize operation more = .allow) ∧
      (∀ operation, ∃! rule, policy.Covers rule operation) ∧
      (∀ operation rule held other, policy.Covers rule operation →
        (rule.IsMetBy held ↔ rule.IsMetBy other) →
          policy.authorize operation held = policy.authorize operation other) ∧
      policy.restrictReads.restrictReads = policy.restrictReads ∧
      (restricted = true → policy.restrictReads = policy) ∧
      ∀ template, policy.check template = .ok () → policy.IsGated roles restricted := by
  refine ⟨?mono, ?rule, ?met, restrictReads_restrictReads policy, ?again, ?gated⟩
  case mono =>
    intro operation held more among allowed
    exact authorize_mono among allowed
  case rule =>
    intro operation
    refine ⟨policy.ruleFor operation, built.covers_iff.mpr rfl, fun rule covers => ?_⟩
    exact built.covers_iff.mp covers
  case met =>
    intro operation rule held other covers alike
    obtain rfl := built.covers_iff.mp covers
    exact authorize_of_isMetBy_iff alike
  case again =>
    rintro rfl
    exact built.restrictReads_eq
  case gated =>
    intro template passes
    exact built.isGated ((built.check_eq_ok_iff template).mp passes)

/-- A policy of two roles whose reads were restricted twice, a caller with one of the roles among
others, and one with neither. -/
theorem twice_restricted_gated :
    let policy := (writtenBy ["CWMS Users", "CWMS DBA Users"]).restrictReads.restrictReads
    policy.restrictReads = policy ∧ policy.check "/a/\x7bid\x7d" = .ok () ∧
      policy.authorize .fetchAll ["viewer", "CWMS DBA Users"] = .allow ∧
      policy.authorize .fetchAll ["viewer"] = policy.authorize .delete [] ∧
      policy.authorize .fetchOne [] = .deny "missing role" := by
  intro policy
  have built : Built ["CWMS Users", "CWMS DBA Users"] true policy :=
    .restrictReads (.restrictReads .writtenBy)
  have passes : policy.check "/a/\x7bid\x7d" = .ok () := (built.check_eq_ok_iff _).mpr (by simp)
  obtain ⟨mono, _, met, _, again, gated⟩ := role_checks_gated built
  have keeps := gated _ passes
  have covers : policy.Covers (policy.ruleFor .delete) .delete := built.covers_iff.mpr rfl
  refine ⟨again rfl, passes, ?_, ?_, (keeps.reads .fetchOne rfl).mpr rfl⟩
  · exact mono .fetchAll ["CWMS DBA Users"] _ (by simp)
      (keeps.single "CWMS DBA Users" (by simp) .fetchAll)
  · have unmet : (policy.ruleFor .delete).IsMetBy ["viewer"] ↔
        (policy.ruleFor .delete).IsMetBy [] := by
      simp [AccessRule.IsMetBy, built.mem_roles_ruleFor_iff]
    rw [keeps.alike rfl ["viewer"] .fetchAll .delete]
    exact met .delete _ ["viewer"] [] covers unmet

end AccessPolicy

end Sluice.Resource
