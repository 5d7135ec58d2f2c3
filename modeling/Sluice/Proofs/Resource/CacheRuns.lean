import Sluice.Resource.CacheRule

/-!
# Defaults of caching one after another

A default of caching is set where nothing has been said about caching, and then something has been said.
After any default, whether it took effect or not, no further one takes effect
(`CacheRule.applies_apply`). So a run of defaults comes to what its first one does, and everything that
stood in the response before stands in it afterwards.
-/

namespace Sluice.Resource.CacheRule

variable {method : Http.Method} {response : Http.Response}

/-- The defaults of some rules, one after another: of each whether it took effect, and the response at
the end. -/
def applyEach (method : Http.Method) :
    List CacheRule → Http.Response → List Bool × Http.Response
  | [], response => ([], response)
  | rule :: later, response =>
    let (effects, last) := applyEach method later (rule.apply method response)
    (applies method response :: effects, last)

/-- The default applies to a read that was answered with exactly 200 and has no field about caching. -/
theorem applies_iff :
    applies method response = true ↔
      (method.name = "GET" ∨ method.name = "HEAD") ∧ response.status = 200 ∧
        response.headers.all headerName = [] := by
  obtain ⟨name⟩ := method
  simp only [applies, Bool.and_eq_true, Bool.or_eq_true, beq_iff_eq, Bool.not_eq_true',
    Http.Headers.has_eq_false_iff, Http.Method.get, Http.Method.head, Http.Method.mk.injEq, and_assoc]

/-- Where the default applies, its field is added behind those that are there. -/
theorem apply_of_applies (applied : applies method response = true) (rule : CacheRule) :
    rule.apply method response =
      { response with headers := response.headers ++ [⟨headerName, rule.headerValue⟩] } := by
  have bare : response.headers.has headerName = false :=
    (Http.Headers.has_eq_false_iff ..).mpr (applies_iff.mp applied).2.2
  -- Nothing is replaced, since there is no field of that name.
  have kept : response.headers.remove headerName = response.headers := by
    refine List.filter_eq_self.mpr fun header member => ?_
    have different := List.any_eq_false.mp bare header member
    simpa using different
  rw [apply, if_pos applied, Http.Headers.set, kept, Http.Headers.append]

/-- After a default no default applies. -/
theorem applies_apply (rule : CacheRule) : applies method (rule.apply method response) = false := by
  rw [Bool.eq_false_iff]
  intro again
  by_cases applied : applies method response = true
  · have bare := (applies_iff.mp again).2.2
    rw [apply_of_applies applied, Http.Headers.all, List.filter_append, List.map_append,
      List.append_eq_nil_iff] at bare
    simp at bare
  · rw [apply_of_not_applies (Bool.not_eq_true _ ▸ applied)] at again
    exact applied again

/-- Where the default does not apply, a run of defaults comes to nothing. -/
theorem applyEach_of_not_applies (unapplied : applies method response = false)
    (rules : List CacheRule) :
    applyEach method rules response = (List.replicate rules.length false, response) := by
  induction rules with
  | nil => rfl
  | cons rule later ih =>
    rw [applyEach, apply_of_not_applies unapplied, ih, unapplied, List.length_cons,
      List.replicate_succ]

/-- Of a run of defaults only the first can take effect, and the response is the same as after the first
alone. That one takes effect exactly for a read that was answered with 200 and has no field about
caching. The status, the body and all fields that were there are kept in their order; the only field that
is added is that of the first rule. -/
theorem default_applied_once (method : Http.Method) (response : Http.Response) (first : CacheRule)
    (later : List CacheRule) :
    ∃ effect last,
      applyEach method (first :: later) response =
        (effect :: List.replicate later.length false, last) ∧
      last = first.apply method response ∧
      (effect = true ↔ (method.name = "GET" ∨ method.name = "HEAD") ∧ response.status = 200 ∧
        response.headers.all "cache-control" = []) ∧
      last.status = response.status ∧ last.body = response.body ∧
      last.headers = response.headers ++
        if effect then [⟨"cache-control", first.headerValue⟩] else [] := by
  refine ⟨applies method response, first.apply method response, ?run, rfl, applies_iff, ?kept⟩
  case run => rw [applyEach, applyEach_of_not_applies (applies_apply first)]
  case kept =>
    by_cases applied : applies method response = true
    · rw [apply_of_applies applied, if_pos applied]
      exact ⟨rfl, rfl, rfl⟩
    · rw [apply_of_not_applies (Bool.not_eq_true _ ▸ applied), if_neg applied, List.append_nil]
      exact ⟨rfl, rfl, rfl⟩

end Sluice.Resource.CacheRule
