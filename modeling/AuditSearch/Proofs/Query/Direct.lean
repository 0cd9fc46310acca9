import AuditSearch.Proofs.Query.Traces

/-!
# Queries written straight from a registry

A query can be written from a registry and a list of further layers, without any clauses. It is
the query that names the same API and predicate, takes every layer from a filter without commands
and asks for the same fields, if the names are given in ascending order and without repeats
(`query_ascending`). Other requests for the same names are answered in the same cases, and their
texts differ only between the search and the fields that are kept (`query_error_or_same_ends`).
-/

namespace AuditSearch.Output.Plan

open Expression

/-- The commands before those that choose the fields: the cuts to first values and the
assignments, as far as there are any. -/
def preparation (plan : Plan) : String :=
  String.join
    (((if plan.firstValues = [] then [] else [keepFirstValues plan.firstValues]) ++
      (if plan.assignments = [] then [] else ["eval " ++ commaList plan.assignments])).map
      ("|" ++ ·))

/-- The commands that choose the fields. -/
def ending (selection : List String) : String :=
  "|fields " ++ commaList selection ++ "|fields - _*"

theorem stages_eq (plan : Plan) : plan.stages = plan.preparation ++ ending plan.selection := by
  have hending : String.join (["fields " ++ commaList plan.selection, dropMetadata].map ("|" ++ ·)) =
      ending plan.selection := by
    have hfields : "|" ++ ("fields " ++ commaList plan.selection) =
        "|fields " ++ commaList plan.selection := by
      rw [← String.append_assoc]
      rfl
    rw [List.map_cons, List.map_singleton, String.join_cons, String.join_cons, hfields]
    rfl
  unfold stages commands preparation
  rw [List.map_append, String.join_append, hending]

end AuditSearch.Output.Plan

namespace AuditSearch.Query

open Audit Output

section
variable (registry : Registry) (index : String) (api : GroupResource) (predicate : String)
  (layers : List Schema) (names : List String)

/-- The clauses of a query for `names` in the rules of `layers`. -/
def layered : List Clause :=
  [.api api, .predicate predicate] ++ (layers.map fun layer => .filter ⟨[], layer⟩) ++
    [.fields names]

theorem lastGiven?_layered {α : Type} (given? : Clause → Option α)
    (hfields : given? (.fields names) = none) :
    lastGiven? given? (layered api predicate layers names) =
      (lastGiven? (fun layer => given? (.filter ⟨[], layer⟩)) layers).or
        (lastGiven? given? [.api api, .predicate predicate]) := by
  have hlast : lastGiven? given? [.fields names] = none :=
    lastGiven?_eq_none.mpr (by simp [hfields])
  unfold layered
  rw [lastGiven?_append, lastGiven?_append, hlast, Option.none_or, lastGiven?_map]

theorem lastApi_layered : lastApi (layered api predicate layers names) = api := by
  have hlayers : lastGiven? (fun layer => Clause.api? (.filter ⟨[], layer⟩)) layers = none :=
    lastGiven?_eq_none.mpr fun _ _ => rfl
  rw [lastApi, lastGiven?_layered _ _ _ _ _ rfl, hlayers]
  rfl

theorem lastPredicate_layered :
    lastPredicate (layered api predicate layers names) = predicate := by
  have hlayers : lastGiven? (fun layer => Clause.predicate? (.filter ⟨[], layer⟩)) layers = none :=
    lastGiven?_eq_none.mpr fun _ _ => rfl
  rw [lastPredicate, lastGiven?_layered _ _ _ _ _ rfl, hlayers]
  rfl

theorem supplied?_layered (name : String) :
    lastGiven? (Clause.supplied? name) (layered api predicate layers names) =
      lastGiven? (fun layer => layer.get? name) layers := by
  rw [lastGiven?_layered _ _ _ _ _ rfl]
  exact Option.or_none

theorem brought_layered : (layered api predicate layers names).flatMap Clause.brought = [] := by
  simp [layered, Clause.brought, List.flatMap_map]

theorem asked_layered : (Start.bare registry).asked (layered api predicate layers names) = names := by
  simp [Start.asked, Start.fields, layered, Clause.asked, List.flatMap_map]

theorem schema_layered :
    ((Start.bare registry).run index (layered api predicate layers names)).schema =
      registry.effective api layers := by
  apply Schema.ext_get?
  intro name
  rw [get?_schema_eq_or, supplied?_layered, lastApi_layered, Registry.get?_effective]
  rfl

theorem search_layered :
    ((Start.bare registry).run index (layered api predicate layers names)).search =
      searchCommand index api predicate := by
  rw [search_run, lastApi_layered, lastPredicate_layered, brought_layered]
  exact String.append_empty

theorem request_layered :
    ((Start.bare registry).run index (layered api predicate layers names)).request =
      Text.ascending names := by
  unfold request
  rw [requested_eq_asked, asked_layered]

theorem query_ascending :
    registry.query index api predicate (Text.ascending names) layers =
      ((Start.bare registry).run index (layered api predicate layers names)).render := by
  unfold render Registry.query
  rw [schema_layered, search_layered, request_layered]

end

section
variable {schema : Schema} {request more : List String}

theorem query_of_plan {plan : Plan} (h : schema.plan request = .ok plan) (search : String) :
    schema.query search request = .ok (search ++ plan.preparation ++ Plan.ending plan.selection) := by
  unfold Schema.query
  rw [h, String.append_assoc, ← Plan.stages_eq]
  rfl

/-- Requests for the same names both fail, or both texts start with the search and end with the
choice of the same fields. -/
theorem query_error_or_same_ends (hmem : ∀ name, name ∈ request ↔ name ∈ more) (search : String) :
    (∃ error moreError, schema.query search request = .error error ∧
      schema.query search more = .error moreError) ∨
    ∃ plan morePlan, schema.plan request = .ok plan ∧ schema.plan more = .ok morePlan ∧
      schema.query search request =
        .ok (search ++ plan.preparation ++ Plan.ending plan.selection) ∧
      schema.query search more =
        .ok (search ++ morePlan.preparation ++ Plan.ending plan.selection) := by
  have hok : (∃ plan, schema.plan request = .ok plan) ↔ ∃ plan, schema.plan more = .ok plan :=
    Schema.exists_plan_congr hmem
  cases hplan : schema.plan request with
  | ok plan =>
    obtain ⟨morePlan, hmore⟩ := hok.mp ⟨plan, hplan⟩
    refine .inr ⟨plan, morePlan, rfl, hmore, query_of_plan hplan search, ?_⟩
    rw [Schema.selection_congr hplan hmore hmem]
    exact query_of_plan hmore search
  | error error =>
    cases hmore : schema.plan more with
    | ok morePlan =>
      obtain ⟨plan, h⟩ := hok.mpr ⟨morePlan, hmore⟩
      exact nomatch hplan.symm.trans h
    | error moreError =>
      refine .inl ⟨error, moreError, ?_, ?_⟩
      · unfold Schema.query
        rw [hplan]
        rfl
      · unfold Schema.query
        rw [hmore]
        rfl

end

/-- For names in ascending order and without repeats the query that is written straight from a
registry is the one that is built from clauses, in text and in failure. For the names as they are
given it fails in the same cases, and otherwise has the same search and keeps the same fields. -/
theorem query_eq_render_run (registry : Registry) (index : String) (api : GroupResource)
    (predicate : String) (layers : List Schema) (names : List String) :
    ∃ sorted : List String, Text.Ascending sorted ∧ (∀ name, name ∈ sorted ↔ name ∈ names) ∧
      registry.query index api predicate sorted layers =
        ((Start.bare registry).run index (layered api predicate layers names)).render ∧
      ((∃ error builtError, registry.query index api predicate names layers = .error error ∧
          ((Start.bare registry).run index (layered api predicate layers names)).render =
            .error builtError) ∨
        ∃ plan builtPlan, (registry.effective api layers).plan names = .ok plan ∧
          (registry.effective api layers).plan sorted = .ok builtPlan ∧
          registry.query index api predicate names layers =
            .ok (searchCommand index api predicate ++ plan.preparation ++
              Plan.ending plan.selection) ∧
          ((Start.bare registry).run index (layered api predicate layers names)).render =
            .ok (searchCommand index api predicate ++ builtPlan.preparation ++
              Plan.ending plan.selection)) := by
  have hmem : ∀ name, name ∈ Text.ascending names ↔ name ∈ names := fun _ => Text.mem_ascending
  refine ⟨Text.ascending names, Text.ascending_ascending names, hmem,
    query_ascending registry index api predicate layers names, ?_⟩
  rw [← query_ascending]
  exact query_error_or_same_ends (fun name => (hmem name).symm) (searchCommand index api predicate)

end AuditSearch.Query
