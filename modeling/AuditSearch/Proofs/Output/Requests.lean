import AuditSearch.Proofs.Output.Reading

/-!
# Comparing requests

A plan depends on a schema through the rules of the requested names only (`plan_congr`), so
schemas that agree on a request are as good as each other, also where a name has no rule. Which
fields a plan keeps depends on the set of the requested names (`selection_congr`), and so does
whether there is a plan at all (`exists_plan_congr`). Which name a failed request reports is a
matter of order: in ascending order it is the least one (`least_of_missing?`).
-/

namespace AuditSearch.Output.Schema

/-- The schemas have the same rule for each of the names, or neither has one. -/
def AgreeOn (names : List String) (schema other : Schema) : Prop :=
  ∀ name ∈ names, schema.get? name = other.get? name

variable {schema other : Schema} {request more : List String}

/-! ## One request to two schemas -/

theorem next_congr {name : String} (h : schema.get? name = other.get? name) (pass : Pass) :
    Pass.next schema pass name = Pass.next other pass name := by
  unfold Pass.next
  rw [h]

theorem foldlM_next_congr (h : AgreeOn request schema other) (pass : Pass) :
    request.foldlM (Pass.next schema) pass = request.foldlM (Pass.next other) pass := by
  induction request generalizing pass with
  | nil => rfl
  | cons name rest ih =>
    have hname : Pass.next schema pass name = Pass.next other pass name :=
      next_congr (h name List.mem_cons_self) pass
    have hrest : AgreeOn rest schema other := fun later hlater =>
      h later (List.mem_cons_of_mem name hlater)
    rw [List.foldlM_cons, List.foldlM_cons, hname]
    exact bind_congr (ih hrest)

theorem plan_congr (h : AgreeOn request schema other) : schema.plan request = other.plan request :=
  congrArg (Pass.plan <$> ·) (foldlM_next_congr h {})

theorem query_congr (h : AgreeOn request schema other) (search : String) :
    schema.query search request = other.query search request := by
  unfold query
  rw [plan_congr h]

/-! ## Two requests for the same names -/

theorem exists_plan_congr (h : ∀ name, name ∈ request ↔ name ∈ more) :
    (∃ plan, schema.plan request = .ok plan) ↔ ∃ plan, schema.plan more = .ok plan := by
  simp only [exists_plan_iff, h]

theorem eq_reading_plan {plan : Plan} (h : schema.plan request = .ok plan) :
    plan = (schema.reading request).plan := by
  rw [plan_eq_match] at h
  cases hmissing : schema.missing? request with
  | some name =>
    rw [hmissing] at h
    exact nomatch h
  | none =>
    rw [hmissing] at h
    exact (Except.ok.inj h).symm

theorem mem_names_reading {name : String} :
    name ∈ (schema.reading request).names ↔ name ∈ request :=
  List.mem_eraseDups

theorem mem_plain_reading {name : String} :
    name ∈ (schema.reading request).plain ↔
      name ∈ request ∧ ((schema.reading request).rule name).container = none := by
  simp only [Reading.plain, List.mem_filter, mem_names_reading, decide_eq_true_iff]

theorem mem_containers_reading {container : String} :
    container ∈ (schema.reading request).containers ↔
      ∃ name ∈ request, ((schema.reading request).rule name).container = some container := by
  simp only [Reading.mem_containers, mem_names_reading]

/-- The fields that are kept are the plain ones and the containers, whatever the order of the
request and however often it repeats a name. -/
theorem selection_congr {plan morePlan : Plan} (hplan : schema.plan request = .ok plan)
    (hmore : schema.plan more = .ok morePlan) (h : ∀ name, name ∈ request ↔ name ∈ more) :
    plan.selection = morePlan.selection := by
  have hrule : (schema.reading request).rule = (schema.reading more).rule := rfl
  rw [eq_reading_plan hplan, eq_reading_plan hmore]
  apply Text.ascending_congr
  intro name
  simp only [List.mem_append, mem_plain_reading, mem_containers_reading, h, hrule]

/-! ## The name that a failed request reports -/

/-- Of the requested names without a rule, `name` is the one whose bytes come first. -/
structure LeastMissing (schema : Schema) (request : List String) (name : String) : Prop where
  requested : name ∈ request
  missing : schema.get? name = none
  least : ∀ rival ∈ request, schema.get? rival = none → rival ≠ name →
    Text.bytes name < Text.bytes rival

theorem LeastMissing.of_mem_iff {name : String} (h : schema.LeastMissing request name)
    (hmem : ∀ name, name ∈ request ↔ name ∈ more) : schema.LeastMissing more name where
  requested := (hmem name).mp h.requested
  missing := h.missing
  least rival hrival := h.least rival ((hmem rival).mpr hrival)

theorem least_of_missing? (hrequest : Text.Ascending request) {name : String}
    (h : schema.missing? request = some name) : schema.LeastMissing request name := by
  obtain ⟨hmissing, before, after, hsplit, hbefore⟩ := List.find?_eq_some_iff_append.mp h
  refine ⟨List.mem_of_find?_eq_some h, Option.isNone_iff_eq_none.mp hmissing, ?_⟩
  intro rival hmem hrival hne
  rw [hsplit] at hmem hrequest
  -- What stands before the first missing name has a rule, and the rest is greater.
  have hafter : rival ∈ after := by
    rcases List.mem_append.mp hmem with hmem | hmem
    · have hrule := hbefore rival hmem
      rw [hrival] at hrule
      exact absurd hrule (by decide)
    · exact (List.mem_cons.mp hmem).resolve_left hne
  have htail : (name :: after).Pairwise fun a b => Text.bytes a < Text.bytes b :=
    (List.pairwise_append.mp hrequest).2.1
  exact List.rel_of_pairwise_cons htail hafter

end AuditSearch.Output.Schema
