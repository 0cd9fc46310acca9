import AuditSearch.Proofs.Query.Run
import AuditSearch.Proofs.Output.Reading
import AuditSearch.Proofs.Text.Pieces

/-!
# What a run of clauses comes to

The rules in force after a run and the text that is written, for every way to begin a query and
every list of clauses. Both are given by what the clauses say, each kind by itself: where the
clauses of two kinds stand relative to each other never shows.
-/

namespace AuditSearch.Query

open Audit Output

/-! ## The rules in force -/

/-- The same start in the rules of `registry`. -/
def Start.within (start : Start) (registry : Registry) : Start :=
  match start with
  | .bare _ => .bare registry
  | .common _ => .common registry
  | .builtin => .common registry

theorem Start.registry_within (start : Start) (registry : Registry) :
    (start.within registry).registry = registry := by
  cases start <;> rfl

section
variable (start : Start) (index : String) (clauses : List Clause)

theorem get?_schema_eq_or (name : String) :
    (start.run index clauses).schema.get? name =
      (lastGiven? (Clause.supplied? name) clauses).or
        (start.registry.rule? name (lastApi clauses)) := by
  have hlayer : ∀ layer : Schema,
      lastGiven? (fun layer : Schema => layer.get? name) [layer] = layer.get? name := by
    intro layer
    rw [lastGiven?_cons]
    exact Option.none_or
  unfold schema
  rw [Registry.get?_effective, hlayer, Start.get?_supplied_run, Start.registry_run, Start.api_run]

theorem get?_schema_ne_none_iff (name : String) :
    (start.run index clauses).schema.get? name ≠ none ↔
      (∃ clause ∈ clauses, clause.supplied? name ≠ none) ∨
        start.registry.rule? name (lastApi clauses) ≠ none := by
  simp only [get?_schema_eq_or, ← Option.isSome_iff_ne_none, Option.isSome_or, Bool.or_eq_true,
    isSome_lastGiven?]

theorem schema_run_congr {start other : Start}
    (h : ∀ name, other.registry.rule? name (lastApi clauses) =
      start.registry.rule? name (lastApi clauses)) :
    (other.run index clauses).schema = (start.run index clauses).schema := by
  apply Schema.ext_get?
  intro name
  rw [get?_schema_eq_or, get?_schema_eq_or, h name]

/-- A name has the rule that the last clause supplies; failing that, the rule of the entry for the
last API; failing that, the rule of the entry for every API. Other entries have no effect, and a
missing entry for every API is as good as an empty one. -/
theorem get?_schema_run :
    (∀ name, (start.run index clauses).schema.get? name =
      (lastGiven? (Clause.supplied? name) clauses).or
        ((if lastApi clauses = .any then none
          else (start.registry.get? (lastApi clauses)).bind fun schema => schema.get? name).or
            ((start.registry.get? .any).bind fun schema => schema.get? name))) ∧
    (∀ registry : Registry,
      (∀ api, api = .any ∨ api = lastApi clauses →
        registry.get? api = start.registry.get? api) →
      ((start.within registry).run index clauses).schema = (start.run index clauses).schema) ∧
    (start.registry.get? .any = none →
      ((start.within (start.registry.set .any .empty)).run index clauses).schema =
        (start.run index clauses).schema) := by
  refine ⟨get?_schema_eq_or start index clauses, ?_, ?_⟩
  · intro registry h
    apply schema_run_congr
    intro name
    unfold Registry.rule? Registry.entryRule?
    rw [Start.registry_within, h .any (Or.inl rfl), h (lastApi clauses) (Or.inr rfl)]
  · intro hnone
    have hany : (start.registry.set .any .empty).get? .any = some .empty := by
      rw [Registry.get?_set, if_pos rfl]
    apply schema_run_congr
    intro name
    have hempty : (some Schema.empty).bind (fun schema => schema.get? name) = none :=
      Schema.get?_empty name
    unfold Registry.rule? Registry.entryRule?
    rw [Start.registry_within, hany, hempty, hnone, Option.bind_none]
    split_ifs with h
    · rfl
    · rw [Registry.get?_set, if_neg (Ne.symm h)]

/-- A registry that knows the runs of pipelines only, and of them only the name. -/
def pipelineNames : Registry :=
  Registry.empty.set Journey.pipelineRuns (.ofList [("name", .ofSources ["objectRef.name"])])

theorem get?_schema_run_pipelineNames :
    let clauses : List Clause := [.event "1", .api Journey.pipelineRuns, .event "2"]
    let schema := ((Start.bare pipelineNames).run "audit" clauses).schema
    schema.get? "event" = some (.ofExpression "2") ∧
    schema.get? "name" = some (.ofSources ["objectRef.name"]) ∧
    ((Start.bare (pipelineNames.set Journey.releases .empty)).run "audit" clauses).schema =
      schema ∧
    pipelineNames.get? .any = none ∧
    ((Start.bare (pipelineNames.set .any .empty)).run "audit" clauses).schema = schema := by
  intro clauses schema
  have hrun := get?_schema_run (.bare pipelineNames) "audit" clauses
  have hnone : pipelineNames.get? .any = none := by
    rw [pipelineNames, Registry.get?_set, if_neg (by decide), Registry.get?_empty]
  have hentry : (pipelineNames.get? Journey.pipelineRuns).bind (fun schema => schema.get? "name") =
      some (.ofSources ["objectRef.name"]) := by
    simp [pipelineNames, Schema.ofList]
  refine ⟨(hrun.1 "event").trans rfl, (hrun.1 "name").trans ?_, ?_, hnone, hrun.2.2 hnone⟩
  · have hapi : lastApi clauses = Journey.pipelineRuns := rfl
    have hclauses : lastGiven? (Clause.supplied? "name") clauses = none := rfl
    rw [hapi, hclauses, if_neg (by decide), Start.registry, hentry]
    rfl
  · refine hrun.2.1 (pipelineNames.set Journey.releases .empty) fun api hapi => ?_
    rcases hapi with rfl | rfl
    · exact (Registry.get?_set _ _ _ _).trans (if_neg (by decide))
    · exact (Registry.get?_set _ _ _ _).trans (if_neg (by decide))

end

/-! ## The text -/

section
variable (start : Start) (index : String) (clauses : List Clause)

theorem search_run :
    (start.run index clauses).search =
      searchCommand index (lastApi clauses) (lastPredicate clauses) ++
        String.join ((clauses.flatMap Clause.brought).map (" | " ++ ·)) := by
  unfold search
  rw [Text.intercalate_eq_join, Start.index_run, Start.api_run, Start.predicate_run,
    Start.commands_run]

theorem mem_request_run (name : String) :
    name ∈ (start.run index clauses).request ↔
      name ∈ start.fields ∨ ∃ clause ∈ clauses, name ∈ clause.asked := by
  unfold request
  rw [Text.mem_ascending, Start.requested_run, List.mem_append, List.mem_flatMap]

/-- A query can be written exactly if every field that was asked for has a rule. -/
theorem exists_render_iff {query : Query} :
    (∃ text, query.render = .ok text) ↔
      ∀ name ∈ query.requested, query.schema.get? name ≠ none := by
  have hrequest : ∀ name, name ∈ query.request ↔ name ∈ query.requested :=
    fun name => Text.mem_ascending
  simp only [← hrequest]
  rw [← Schema.exists_plan_iff]
  unfold render Schema.query
  cases query.schema.plan query.request with
  | error e => simp
  | ok plan => simp

/-- The text is the search for the last API and the last predicate, then all commands in order,
and then the stages of the plan for the requested names, in ascending order and without repeats. -/
theorem render_run :
    ∃ names : List String, Text.Ascending names ∧
      (∀ name, name ∈ names ↔
        name ∈ start.fields ∨ ∃ clause ∈ clauses, name ∈ clause.asked) ∧
      (start.run index clauses).render =
        (fun plan =>
          searchCommand index (lastApi clauses) (lastPredicate clauses) ++
            String.join ((clauses.flatMap Clause.brought).map (" | " ++ ·)) ++ plan.stages) <$>
          (start.run index clauses).schema.plan names := by
  refine ⟨(start.run index clauses).request, Text.ascending_ascending _,
    mem_request_run start index clauses, ?_⟩
  unfold render Schema.query
  rw [search_run]

end

end AuditSearch.Query
