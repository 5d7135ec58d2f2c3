import Mathlib.Data.List.TakeWhile
import Sluice.Resource.Caller

/-!
# Access and callers

Access depends on roles as sets: `AccessPolicy.authorize_eq_allow_iff` asks whether a role stands on both
sides, in whatever order and however often. The roles of a caller are written as lists with commas, of
which the headers of a request may bring several, and so are the roles of a setting; `Text.Lists` says
what stands in such a list.
-/

namespace Sluice.Text

/-- A list with commas has an item: that is not empty and is what is left of some piece. -/
def Lists (text item : String) : Prop :=
  item ≠ "" ∧ ∃ piece ∈ pieces ',' text, trim piece = item

/-- A text is trimmed to what is left of it, which is something. -/
theorem trimmed?_eq_some_iff {text inner : String} :
    trimmed? text = some inner ↔ trim text = inner ∧ inner ≠ "" := by
  simp only [trimmed?, String.isEmpty_iff]
  by_cases empty : trim text = ""
  · rw [if_pos empty]
    simp only [reduceCtorEq, false_iff, empty]
    rintro ⟨same, nonempty⟩
    exact nonempty same.symm
  · rw [if_neg empty, Option.some.injEq]
    exact ⟨fun same => ⟨same, same ▸ empty⟩, And.left⟩

/-- The items of a list are those that it has. -/
theorem mem_items_iff {text item : String} : item ∈ items ',' text ↔ Lists text item := by
  simp only [items, List.mem_filterMap, trimmed?_eq_some_iff, Lists]
  constructor
  · rintro ⟨piece, member, trimmed, nonempty⟩
    exact ⟨nonempty, piece, member, trimmed⟩
  · rintro ⟨nonempty, piece, member, trimmed⟩
    exact ⟨piece, member, trimmed, nonempty⟩

/-- Nothing is left of characters exactly if all of them are white space. -/
theorem trimChars_eq_nil_iff (cs : List Char) : trimChars cs = [] ↔ cs.all isBlank = true := by
  rw [trimChars, trimEndChars, List.reverse_eq_nil_iff, List.dropWhile_eq_nil_iff, trimStartChars,
    List.all_eq_true]
  simp only [List.mem_reverse]
  constructor
  · intro blank
    -- What is not dropped from the front would start with something that is not blank.
    have dropped : cs.dropWhile isBlank = [] := by
      cases rest : cs.dropWhile isBlank with
      | nil => rfl
      | cons c later =>
        have kept := List.head?_dropWhile_not isBlank cs
        rw [rest] at kept
        have first : isBlank c = true := blank c (rest ▸ List.mem_cons_self)
        exact absurd (first.symm.trans kept) (by decide)
    exact List.dropWhile_eq_nil_iff.mp dropped
  · intro blank c member
    exact blank c ((List.dropWhile_sublist isBlank).subset member)

/-- Something is left of a text unless all of it is white space. -/
theorem isSome_trimmed?_iff {text : String} :
    (trimmed? text).isSome = true ↔ isBlankText text = false := by
  have left : (trim text).isEmpty = isBlankText text := by
    rw [Bool.eq_iff_iff, String.isEmpty_iff, trim, ← String.toList_inj, String.toList_ofList]
    exact trimChars_eq_nil_iff text.toList
  simp only [trimmed?, ← left]
  cases (trim text).isEmpty with
  | true => simp only [if_true, Option.isSome_none, Bool.false_eq_true, Bool.true_eq_false]
  | false => simp only [Bool.false_eq_true, if_false, Option.isSome_some]

/-- Nothing is left of a text that is white space. -/
theorem trimmed?_eq_none_iff {text : String} : trimmed? text = none ↔ isBlankText text = true := by
  rw [← Option.not_isSome_iff_eq_none, isSome_trimmed?_iff, Bool.not_eq_false]

end Sluice.Text

namespace Sluice.Resource

/-! ## Roles as sets -/

/-- Ordering roles and dropping repetitions keeps the same names. -/
theorem Roles.mem_distinct {roles : Roles} {role : String} : role ∈ roles.distinct ↔ role ∈ roles := by
  rw [distinct, List.mem_eraseDups, List.mem_mergeSort]

/-- A rule lets a caller pass if it asks for no role or the caller holds one of its roles. -/
theorem AccessRule.permits_iff (rule : AccessRule) (held : Roles) :
    rule.permits held = true ↔ rule.roles = [] ∨ ∃ role ∈ rule.roles, role ∈ held := by
  simp only [permits, isOpen, Bool.or_eq_true, List.isEmpty_iff, List.any_eq_true,
    List.contains_eq_mem, decide_eq_true_eq]

namespace AccessPolicy

/-- Access is allowed to whom the rule of the operation lets pass. -/
theorem authorize_eq_allow_iff (policy : AccessPolicy) (operation : Operation) (held : Roles) :
    policy.authorize operation held = .allow ↔
      (policy.ruleFor operation).roles = [] ∨
        ∃ role ∈ (policy.ruleFor operation).roles, role ∈ held := by
  rw [← AccessRule.permits_iff, authorize]
  split <;> simp_all

/-- Access that is not allowed is denied for want of a role. -/
theorem authorize_eq_deny_iff (policy : AccessPolicy) (operation : Operation) (held : Roles) :
    policy.authorize operation held = .deny "missing role" ↔
      policy.authorize operation held ≠ .allow := by
  unfold authorize
  split <;> simp

/-- Decisions that allow the same are the same. -/
theorem authorize_congr {policy other : AccessPolicy} {operation further : Operation}
    {held owned : Roles}
    (same : policy.authorize operation held = .allow ↔ other.authorize further owned = .allow) :
    policy.authorize operation held = other.authorize further owned := by
  by_cases allowed : policy.authorize operation held = .allow
  · rw [allowed, same.mp allowed]
  · rw [(authorize_eq_deny_iff ..).mpr allowed,
      (authorize_eq_deny_iff ..).mpr fun owner => allowed (same.mpr owner)]

end AccessPolicy

/-! ## Callers -/

namespace Caller

/-- Headers give a role if it stands in a value of the roles header. -/
def GivesRole (headers : Http.Headers) (role : String) : Prop :=
  ∃ value ∈ headers.all rolesHeader, ∃ text, value.text? = some text ∧ Text.Lists text role

/-- Headers that name a caller: the first value of the user header can be shown and is not blank, and
all values of the roles header can be shown. -/
structure IsNamed (headers : Http.Headers) : Prop where
  user : ∃ value text, headers.first? userHeader = some value ∧ value.text? = some text ∧
    Text.isBlankText text = false
  roles : ∀ value ∈ headers.all rolesHeader, value.text?.isSome = true

/-- Values that can all be shown have the roles that stand in any of them. -/
theorem rolesOfValues_of_readable {values : List Http.HeaderValue}
    (readable : ∀ value ∈ values, value.text?.isSome = true) :
    ∃ roles, rolesOfValues values = .ok roles ∧
      ∀ role, role ∈ roles ↔
        ∃ value ∈ values, ∃ text, value.text? = some text ∧ Text.Lists text role := by
  induction values with
  | nil => exact ⟨[], rfl, by simp⟩
  | cons value rest ih =>
    obtain ⟨roles, read, given⟩ := ih fun other member => readable other (.tail value member)
    obtain ⟨text, shown⟩ := Option.isSome_iff_exists.mp (readable value List.mem_cons_self)
    refine ⟨Text.items ',' text ++ roles, ?_, fun role => ?_⟩
    · rw [rolesOfValues, shown, read]
      rfl
    · simp [List.mem_append, Text.mem_items_iff, given, shown]

/-- Headers that name a caller are read, and the caller has the roles that they give. -/
theorem ofHeaders_of_isNamed {headers : Http.Headers} (named : IsNamed headers) :
    ∃ caller, ofHeaders headers = .ok (some caller) ∧
      ∀ role, role ∈ caller.roles ↔ GivesRole headers role := by
  obtain ⟨⟨value, text, first, shown, notBlank⟩, readable⟩ := named
  obtain ⟨roles, read, given⟩ := rolesOfValues_of_readable readable
  obtain ⟨name, trimmed⟩ := Option.isSome_iff_exists.mp (Text.isSome_trimmed?_iff.mpr notBlank)
  refine ⟨Caller.named name roles, ?_, fun role => ?_⟩
  · simp only [ofHeaders, first, shown, trimmed, read]
    rfl
  · exact Roles.mem_distinct.trans (given role)

/-- Without the user header nobody is named, whatever roles the headers give. -/
theorem ofHeaders_of_unnamed {headers : Http.Headers} (unnamed : headers.all userHeader = []) :
    ofHeaders headers = .ok none := by
  rw [ofHeaders, Http.Headers.first?_eq_head?, unnamed]
  rfl

end Caller

end Sluice.Resource
