import AuditSearch.Proofs.Journey.Coverage
import AuditSearch.Proofs.Query.Traces

/-!
# Which rules of a registry reach a query

A query looks up the names that it asks for, and a rule that a clause supplies comes before those
of the registry. So two registries that agree, for the API of the query, on the names that are
asked for and not supplied cannot be told apart (`trace_within_congr`). For an entry of the
catalog this tells which rules are hidden (`Entry.Hides`). An edit that brings only such rules
leaves the view of the entry as it is (`Entry.SameView.apply`), and so does every history of them
(`Entry.SameView.applyAll`), so the entry is described as before (`Entry.describe_congr`).
-/

namespace AuditSearch.Query

open Audit Output

theorem Start.asked_within (start : Start) (registry : Registry) (clauses : List Clause) :
    (start.within registry).asked clauses = start.asked clauses := by
  cases start <;> rfl

section
variable {registry other : Registry} (start : Start) (index : String) {clauses : List Clause}

theorem get?_schema_within (name : String) :
    ((start.within registry).run index clauses).schema.get? name =
      (lastGiven? (Clause.supplied? name) clauses).or
        ((registry.effective (lastApi clauses) []).get? name) := by
  rw [get?_schema_eq_or, Start.registry_within, Registry.get?_effective_nil]

/-- Two runs over registries that differ in nothing that is looked up report the same. -/
theorem trace_within_congr
    (h : ∀ name ∈ start.asked clauses, (∀ clause ∈ clauses, clause.supplied? name = none) →
      (registry.effective (lastApi clauses) []).get? name =
        (other.effective (lastApi clauses) []).get? name) :
    ((start.within registry).run index clauses).trace =
      ((start.within other).run index clauses).trace := by
  have hsearch : ((start.within registry).run index clauses).search =
      ((start.within other).run index clauses).search := by
    rw [search_run, search_run]
  have hrequested : ((start.within registry).run index clauses).requested =
      ((start.within other).run index clauses).requested := by
    rw [requested_eq_asked, requested_eq_asked, Start.asked_within, Start.asked_within]
  refine trace_congr hsearch (congrArg Text.ascending hrequested) ?_
  intro name hname
  have hasked : name ∈ start.asked clauses := by
    have hmem := mem_request.mp hname
    rwa [requested_eq_asked, Start.asked_within] at hmem
  rw [get?_schema_within, get?_schema_within]
  cases hsupplied : lastGiven? (Clause.supplied? name) clauses with
  | some rule => rfl
  | none => rw [h name hasked (lastGiven?_eq_none.mp hsupplied)]

end

end AuditSearch.Query

namespace AuditSearch.Journey.Entry

open Audit Output Query

/-- Why the rule of a name in the entry of an API of a registry does not matter to an entry of the
catalog. -/
inductive Hides (entry : Entry) (registry : Registry) (api : GroupResource) (name : String) : Prop
  /-- The field is not asked for. -/
  | notAsked : name ∉ commonFields → (∀ clause ∈ entry.clauses, name ∉ clause.asked) →
      Hides entry registry api name
  /-- A filter or the event expression gives the field its rule. -/
  | supplied {clause : Clause} : clause ∈ entry.clauses → clause.supplied? name ≠ none →
      Hides entry registry api name
  /-- The rule for every API lies under one for the API that is searched. -/
  | shadowed : api = .any → lastApi entry.clauses ≠ .any →
      registry.entryRule? name (lastApi entry.clauses) ≠ none → Hides entry registry api name
  /-- Another API is searched. -/
  | elsewhere : api ≠ .any → api ≠ lastApi entry.clauses → Hides entry registry api name

/-- The edit brings new rules only where they are hidden. -/
def Ignores (entry : Entry) (registry : Registry) : Edit → Prop
  | .set api schema => ∀ name, schema.get? name ≠ registry.entryRule? name api →
      entry.Hides registry api name
  | .extend api schema => ∀ name, schema.get? name ≠ none → entry.Hides registry api name

/-- The two registries differ only where it is hidden. -/
def SameView (entry : Entry) (registry other : Registry) : Prop :=
  ∀ api name, other.entryRule? name api ≠ registry.entryRule? name api →
    entry.Hides registry api name

variable {entry : Entry} {registry other : Registry}

theorem SameView.refl (entry : Entry) (registry : Registry) : entry.SameView registry registry :=
  fun _ _ hne => absurd rfl hne

theorem SameView.apply (h : entry.SameView registry other) {edit : Edit}
    (hedit : entry.Ignores registry edit) : entry.SameView registry (other.apply edit) := by
  intro target name hne
  cases edit with
  | set api schema =>
    rw [Registry.apply, Registry.entryRule?_set] at hne
    split_ifs at hne with hapi
    · subst hapi
      exact hedit name hne
    · exact h target name hne
  | extend api schema =>
    rw [Registry.apply, Registry.entryRule?_extend] at hne
    split_ifs at hne with hapi
    · subst hapi
      by_cases hname : schema.get? name = none
      · rw [hname, Option.none_or] at hne
        exact h api name hne
      · exact hedit name hname
    · exact h target name hne

theorem SameView.applyAll (h : entry.SameView registry other) {edits : List Edit}
    (hedits : ∀ edit ∈ edits, entry.Ignores registry edit) :
    entry.SameView registry (other.applyAll edits) := by
  induction edits generalizing other with
  | nil => exact h
  | cons edit rest ih =>
    have hedit := hedits edit List.mem_cons_self
    have hrest : ∀ edit ∈ rest, entry.Ignores registry edit :=
      fun edit hmem => hedits edit (List.mem_cons_of_mem _ hmem)
    exact ih (h.apply hedit) hrest

/-- What is looked up in the registry is the same in both. -/
theorem SameView.rule?_eq (h : entry.SameView registry other) {name : String}
    (hasked : name ∈ commonFields ∨ ∃ clause ∈ entry.clauses, name ∈ clause.asked)
    (hopen : ∀ clause ∈ entry.clauses, clause.supplied? name = none) :
    other.rule? name (lastApi entry.clauses) = registry.rule? name (lastApi entry.clauses) := by
  -- The field is asked for and not supplied, so only a reason that lies in the APIs is left.
  have hseen : ∀ api, entry.Hides registry api name →
      (api = .any ∧ lastApi entry.clauses ≠ .any ∧
        registry.entryRule? name (lastApi entry.clauses) ≠ none) ∨
      (api ≠ .any ∧ api ≠ lastApi entry.clauses) := by
    intro api hhides
    cases hhides with
    | notAsked hcommon hclauses =>
      rcases hasked with hmem | ⟨clause, hclause, hmem⟩
      · exact absurd hmem hcommon
      · exact absurd hmem (hclauses clause hclause)
    | supplied hclause hsupplied => exact absurd (hopen _ hclause) hsupplied
    | shadowed hany hapi hrule => exact .inl ⟨hany, hapi, hrule⟩
    | elsewhere hany hapi => exact .inr ⟨hany, hapi⟩
  have htarget : other.entryRule? name (lastApi entry.clauses) =
      registry.entryRule? name (lastApi entry.clauses) := by
    by_contra hne
    rcases hseen _ (h _ name hne) with ⟨hany, hapi, -⟩ | ⟨-, hapi⟩
    · exact hapi hany
    · exact hapi rfl
  unfold Registry.rule?
  rw [htarget]
  by_cases hany : other.entryRule? name .any = registry.entryRule? name .any
  · rw [hany]
  · rcases hseen _ (h .any name hany) with ⟨-, hapi, hrule⟩ | ⟨hapi, -⟩
    · obtain ⟨rule, hsome⟩ := Option.ne_none_iff_exists'.mp hrule
      rw [if_neg hapi, hsome, Option.some_or, Option.some_or]
    · exact absurd rfl hapi

theorem describe_congr (h : entry.SameView registry other) (index : String) :
    entry.describe index other = entry.describe index registry := by
  have htrace : (entry.query index other).trace = (entry.query index registry).trace := by
    rw [query_eq_run, query_eq_run]
    refine trace_within_congr (.common registry) index ?_
    intro name hname hopen
    rw [Registry.get?_effective_nil, Registry.get?_effective_nil]
    exact h.rule?_eq (mem_asked.mp hname) hopen
  unfold describe
  rw [htrace]

/-- What a query reports depends on a registry through the rules, for its API, of the names that
are asked for and not supplied. Overrides that an entry ignores do not change what it reports. -/
theorem noninterference :
    (∀ (start : Start) (index : String) (clauses : List Clause) (registry other : Registry),
      (∀ name ∈ start.asked clauses, (∀ clause ∈ clauses, clause.supplied? name = none) →
        (registry.effective (lastApi clauses) []).get? name =
          (other.effective (lastApi clauses) []).get? name) →
      ((start.within registry).run index clauses).render =
        ((start.within other).run index clauses).render ∧
      ((start.within registry).run index clauses).trace =
        ((start.within other).run index clauses).trace) ∧
    ∀ (entry : Entry) (index : String) (registry : Registry) (edits : List Edit),
      (∀ edit ∈ edits, entry.Ignores registry edit) →
      entry.describe index (registry.applyAll edits) = entry.describe index registry := by
  constructor
  · intro start index clauses registry other h
    have htrace := trace_within_congr start index h
    exact ⟨(render_of_trace htrace).trans (outcome_trace _), htrace⟩
  · intro entry index registry edits hedits
    exact describe_congr ((SameView.refl entry registry).applyAll hedits) index

/-- A rule for `event` does not reach a query that computes the field, a release takes its
application from its own API, and what holds for the runs of tasks is of no concern to it. -/
theorem noninterference_release :
    let clauses : List Clause := [.fields ["name"], .event "1", .api pipelineRuns]
    let other := pipelineNames.extend .any (.ofList [("event", .copy), ("kind", .copy)])
    let edits : List Edit :=
      [.extend .any (.ofList
        [("application", .copy), ("event", .copy), ("merge_url", .copy), ("status_reason", .copy)]),
        .extend releases (.ofList [("status_message", .copy)]), .set taskRuns .empty]
    (∀ name ∈ (Start.bare pipelineNames).asked clauses,
      (∀ clause ∈ clauses, clause.supplied? name = none) →
      (pipelineNames.effective (lastApi clauses) []).get? name =
        (other.effective (lastApi clauses) []).get? name) ∧
    ((Start.bare pipelineNames).run "audit" clauses).trace =
      ((Start.bare other).run "audit" clauses).trace ∧
    (∀ edit ∈ edits, releaseCompleted.Ignores Journey.registry edit) ∧
    releaseCompleted.describe "audit" (Journey.registry.applyAll edits) =
      releaseCompleted.describe "audit" Journey.registry := by
  intro clauses other edits
  have hagree : ∀ name ∈ (Start.bare pipelineNames).asked clauses,
      (∀ clause ∈ clauses, clause.supplied? name = none) →
      (pipelineNames.effective (lastApi clauses) []).get? name =
        (other.effective (lastApi clauses) []).get? name := by
    intro name hname hopen
    have hcases : name = "name" ∨ name = "event" := by
      simpa [Start.asked, Start.fields, clauses, Clause.asked] using hname
    rcases hcases with rfl | rfl
    · have hrule : (Schema.ofList [("event", .copy), ("kind", .copy)]).get? "name" = none := by
        simp [Schema.ofList]
      rw [Registry.get?_effective_nil, Registry.get?_effective_nil]
      unfold Registry.rule? other
      simp only [Registry.entryRule?_extend, hrule, Option.none_or, ite_self]
    · exact absurd (hopen (.event "1") (by simp [clauses])) (Option.some_ne_none _)
  have hshadowed : releaseCompleted.Hides Journey.registry .any "application" := by
    have hrule : Journey.registry.entryRule? "application" releases ≠ none := by
      simp [Journey.registry, Registry.applyAll, Registry.entryRule?, Edit.api, Edit.entry,
        Schema.ofList]
    exact .shadowed rfl (by decide) hrule
  have hsupplied : ∀ name ∈ ["event", "status_message", "status_reason"],
      ∀ api, releaseCompleted.Hides Journey.registry api name := by
    have hclauses : ∀ name ∈ ["event", "status_message", "status_reason"],
        ∃ clause ∈ releaseCompleted.clauses, clause.supplied? name ≠ none := by
      decide
    intro name hname api
    obtain ⟨clause, hclause, hrule⟩ := hclauses name hname
    exact .supplied hclause hrule
  have hevery : releaseCompleted.Ignores Journey.registry (.extend .any (.ofList
      [("application", .copy), ("event", .copy), ("merge_url", .copy),
        ("status_reason", .copy)])) := by
    intro name hname
    have hcases : name = "application" ∨ name = "event" ∨ name = "merge_url" ∨
        name = "status_reason" := by
      simpa using (get?_ofList_ne_none_iff _ name).mp hname
    rcases hcases with rfl | rfl | rfl | rfl
    · exact hshadowed
    · exact hsupplied _ (by decide) _
    · exact .notAsked (by decide) (by decide)
    · exact hsupplied _ (by decide) _
  have hown : releaseCompleted.Ignores Journey.registry
      (.extend releases (.ofList [("status_message", .copy)])) := by
    intro name hname
    have hcases : name = "status_message" := by
      simpa using (get?_ofList_ne_none_iff _ name).mp hname
    subst hcases
    exact hsupplied _ (by decide) _
  have htasks : releaseCompleted.Ignores Journey.registry (.set taskRuns .empty) :=
    fun _ _ => .elsewhere (by decide) (by decide)
  have hedits : ∀ edit ∈ edits, releaseCompleted.Ignores Journey.registry edit := by
    simp only [edits, List.forall_mem_cons]
    exact ⟨hevery, hown, htasks, List.forall_mem_nil _⟩
  exact ⟨hagree, (noninterference.1 (.bare pipelineNames) "audit" clauses pipelineNames other
    hagree).2, hedits, noninterference.2 releaseCompleted "audit" Journey.registry edits hedits⟩

end AuditSearch.Journey.Entry
