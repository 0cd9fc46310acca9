import AuditSearch.Proofs.Output.Requests
import AuditSearch.Proofs.Query.Outcome
import Mathlib.Data.Finset.Card

/-!
# What a query reports

Writing a query emits one event. If a requested field has no rule, the event warns of the least
such field, whatever the order of the request (`trace_of_missing`); otherwise it carries the text
and the number of distinct requested fields (`trace_of_known`). Two queries with the same search
and the same request, in schemas that agree on the request, report the same (`trace_congr`).
-/

namespace AuditSearch.Text

theorem nodup_ascending (names : List String) : (ascending names).Nodup := by
  have hirrefl : ∀ a b : String, bytes a < bytes b → a ≠ b := by
    intro a b hlt heq
    rw [heq] at hlt
    exact List.lt_irrefl _ hlt
  exact (ascending_ascending names).imp (hirrefl _ _)

theorem length_ascending (names : List String) :
    (ascending names).length = names.toFinset.card := by
  have hset : (ascending names).toFinset = names.toFinset := by
    ext name
    simp only [List.mem_toFinset, mem_ascending]
  rw [← hset, List.toFinset_card_of_nodup (nodup_ascending names)]

end AuditSearch.Text

namespace AuditSearch.Query

open Audit Output

/-- All names that are asked for, in order and with repeats. -/
def Start.asked (start : Start) (clauses : List Clause) : List String :=
  start.fields ++ clauses.flatMap Clause.asked

theorem mem_asked {start : Start} {clauses : List Clause} {name : String} :
    name ∈ start.asked clauses ↔ name ∈ start.fields ∨ ∃ clause ∈ clauses, name ∈ clause.asked := by
  rw [Start.asked, List.mem_append, List.mem_flatMap]

theorem requested_eq_asked (start : Start) (index : String) (clauses : List Clause) :
    (start.run index clauses).requested = start.asked clauses :=
  Start.requested_run start index clauses

section
variable {query other : Query}

theorem mem_request {name : String} : name ∈ query.request ↔ name ∈ query.requested :=
  Text.mem_ascending

theorem render_eq_match (query : Query) :
    query.render = match query.schema.missing? query.request with
      | some name => .error (.unknownField name)
      | none => .ok (query.search ++ (query.schema.reading query.request).plan.stages) := by
  unfold render Schema.query
  rw [Schema.plan_eq_match]
  cases query.schema.missing? query.request <;> rfl

theorem leastMissing_of_missing? {name : String}
    (h : query.schema.missing? query.request = some name) :
    query.schema.LeastMissing query.requested name := by
  have hascending : Text.Ascending query.request := Text.ascending_ascending query.requested
  exact (Schema.least_of_missing? hascending h).of_mem_iff fun _ => mem_request

theorem exists_error_iff (query : Query) :
    (∃ error, query.render = .error error) ↔
      ∃ name ∈ query.requested, query.schema.get? name = none := by
  rw [render_eq_match]
  cases hmissing : query.schema.missing? query.request with
  | some name =>
    have hleast := leastMissing_of_missing? hmissing
    exact ⟨fun _ => ⟨name, hleast.requested, hleast.missing⟩, fun _ => ⟨_, rfl⟩⟩
  | none =>
    constructor
    · rintro ⟨error, herror⟩
      exact nomatch herror
    · rintro ⟨name, hname, hnone⟩
      exact absurd hnone (Schema.missing?_eq_none.mp hmissing name (mem_request.mpr hname))

theorem trace_of_missing {name : String} (h : query.schema.missing? query.request = some name) :
    query.trace = ⟨.error (.unknownField name), [.unknownField name]⟩ := by
  have hrender : query.render = .error (.unknownField name) := by rw [render_eq_match, h]
  unfold trace
  rw [hrender]
  rfl

theorem trace_of_known (h : query.schema.missing? query.request = none) :
    ∃ text, query.trace = ⟨.ok text, [.rendered text query.requested.toFinset.card]⟩ := by
  have hrender : query.render =
      .ok (query.search ++ (query.schema.reading query.request).plan.stages) := by
    rw [render_eq_match, h]
  refine ⟨query.search ++ (query.schema.reading query.request).plan.stages, ?_⟩
  unfold trace
  rw [hrender, ← Text.length_ascending]
  rfl

theorem render_of_trace {result : Traced String} (h : query.trace = result) :
    query.render = result.outcome := by
  rw [← outcome_trace, h]

theorem trace_congr (hsearch : query.search = other.search)
    (hrequest : query.request = other.request)
    (hschema : Schema.AgreeOn query.request query.schema other.schema) :
    query.trace = other.trace := by
  have hrender : query.render = other.render := by
    unfold render
    rw [Schema.query_congr hschema, hsearch, hrequest]
  unfold trace
  rw [hrender, hrequest]

end

/-- A query fails exactly if a name without a rule is asked for. It then reports the one whose
bytes come first, by one warning; otherwise one event reports the text, with the number of
distinct names. -/
theorem trace_run (start : Start) (index : String) (clauses : List Clause) :
    ((∃ error, (start.run index clauses).render = .error error) ↔
      ∃ name ∈ start.asked clauses, (start.run index clauses).schema.get? name = none) ∧
    ((∃ name event, (start.run index clauses).schema.LeastMissing (start.asked clauses) name ∧
        (start.run index clauses).render = .error (.unknownField name) ∧
        (start.run index clauses).trace = ⟨.error (.unknownField name), [event]⟩ ∧
        event.level = .warn ∧ event.message = "ujquery.unknown_field" ∧
        event.values = [("field", name)]) ∨
      ∃ text event, (start.run index clauses).render = .ok text ∧
        (start.run index clauses).trace = ⟨.ok text, [event]⟩ ∧
        event.level = .debug ∧ event.message = "ujquery.render" ∧
        event.values =
          [("query", text), ("fields", toString (start.asked clauses).toFinset.card)]) := by
  rw [← requested_eq_asked start index clauses]
  refine ⟨exists_error_iff _, ?_⟩
  cases hmissing : (start.run index clauses).schema.missing? (start.run index clauses).request with
  | some name =>
    have hleast := leastMissing_of_missing? hmissing
    have htrace := trace_of_missing hmissing
    exact .inl ⟨name, .unknownField name, hleast, render_of_trace htrace, htrace, rfl, rfl, rfl⟩
  | none =>
    obtain ⟨text, htrace⟩ := trace_of_known hmissing
    exact .inr ⟨text, .rendered text _, render_of_trace htrace, htrace, rfl, rfl, rfl⟩

end AuditSearch.Query
