import AuditSearch.Proofs.Journey.Coverage
import AuditSearch.Proofs.Query.Traces

/-!
# Batches are all or nothing

An entry on its own is written with one event, or refused with one warning
(`Entry.writes_or_refuses`). A batch runs through its entries in order up to the first one that is
refused. `Written` is a run to the end and `Fails` one that stops, each with its events; every list
of entries has one of the two (`written_or_fails`).
-/

namespace AuditSearch.Journey.Entry

open Audit Output Query Report

variable (entry : Entry) (index : String) (registry : Registry)

/-- On its own the entry is written as `text`, and `event` reports this. -/
structure Writes (text : String) (event : Event) : Prop where
  render : entry.render index registry = .ok text
  level : event.level = .debug
  message : event.message = "ujquery.render"
  values : event.values = [("query", text),
    ("fields", toString (entry.query index registry).requested.toFinset.card)]

/-- On its own the entry fails for want of a rule for `name`, and `event` warns of this. -/
structure Refuses (name : String) (event : Event) : Prop where
  render : entry.render index registry = .error (.unknownField name)
  level : event.level = .warn
  message : event.message = "ujquery.unknown_field"
  values : event.values = [("field", name)]

theorem writes_or_refuses :
    (∃ text event, entry.Writes index registry text event ∧
      entry.describe index registry = ⟨.ok ⟨entry.title, text⟩, [event]⟩) ∨
    ∃ name event, entry.Refuses index registry name event ∧
      entry.describe index registry = ⟨.error (.unknownField name), [event]⟩ := by
  unfold describe
  cases hmissing :
    (entry.query index registry).schema.missing? (entry.query index registry).request with
  | some name =>
    have htrace := trace_of_missing hmissing
    refine .inr ⟨name, .unknownField name, ⟨render_of_trace htrace, rfl, rfl, rfl⟩, ?_⟩
    rw [htrace]
    rfl
  | none =>
    obtain ⟨text, htrace⟩ := trace_of_known hmissing
    refine .inl ⟨text, .rendered text _, ⟨render_of_trace htrace, rfl, rfl, rfl⟩, ?_⟩
    rw [htrace]
    rfl

end AuditSearch.Journey.Entry

namespace AuditSearch.Report

open Audit Journey Output Query

/-- All entries are written, each under its title and each with its event. -/
inductive Written (index : String) (registry : Registry) :
    List Entry → List Titled → List Event → Prop
  | nil : Written index registry [] [] []
  | cons {entry : Entry} {text : String} {event : Event} {rest : List Entry}
      {queries : List Titled} {events : List Event} :
      entry.Writes index registry text event → Written index registry rest queries events →
      Written index registry (entry :: rest) (⟨entry.title, text⟩ :: queries) (event :: events)

/-- The entries before one that is refused are written, and those after it are not looked at. -/
inductive Fails (index : String) (registry : Registry) :
    List Entry → String → List Event → Prop
  | first {before after : List Entry} {failing : Entry} {queries : List Titled}
      {events : List Event} {name : String} {warning : Event} :
      Written index registry before queries events →
      failing.Refuses index registry name warning →
      Fails index registry (before ++ failing :: after) name (events ++ [warning])

section
variable {index : String} {registry : Registry} {entries : List Entry} {queries : List Titled}
  {events : List Event} {name : String}

theorem Written.length_eq (h : Written index registry entries queries events) :
    queries.length = entries.length := by
  induction h with
  | nil => rfl
  | cons _ _ ih => rw [List.length_cons, List.length_cons, ih]

theorem Fails.cons {entry : Entry} {text : String} {event : Event}
    (hentry : entry.Writes index registry text event) (h : Fails index registry entries name events) :
    Fails index registry (entry :: entries) name (event :: events) := by
  cases h with
  | first hbefore hfailing => exact .first (.cons hentry hbefore) hfailing

theorem written_or_fails (index : String) (registry : Registry) (entries : List Entry) :
    (∃ queries events, Written index registry entries queries events ∧
      describeAll entries index registry = ⟨.ok queries, events⟩) ∨
    ∃ name events, Fails index registry entries name events ∧
      describeAll entries index registry = ⟨.error (.unknownField name), events⟩ := by
  induction entries with
  | nil => exact .inl ⟨[], [], .nil, rfl⟩
  | cons entry rest ih =>
    rw [describeAll_cons]
    rcases entry.writes_or_refuses index registry with
      ⟨text, event, hentry, hdescribe⟩ | ⟨name, event, hentry, hdescribe⟩
    · rw [hdescribe]
      rcases ih with ⟨queries, events, hrest, hrun⟩ | ⟨name, events, hrest, hrun⟩
      · refine .inl ⟨_, _, .cons hentry hrest, ?_⟩
        rw [hrun]
        exact congrArg (Traced.mk _) (congrArg (event :: ·) (List.append_nil events))
      · refine .inr ⟨name, _, hrest.cons hentry, ?_⟩
        rw [hrun]
        rfl
    · refine .inr ⟨name, [event], .first .nil hentry, ?_⟩
      rw [hdescribe]
      rfl

end

/-- A batch is written as a whole, with one event for each entry and one at the end, or the first
entry that is refused gives its error, and the events end with its warning. It is the same for the
entries without printing, where the event at the end is missing. -/
theorem batch_all_or_nothing (entries : List Entry) (index : String) (registry : Registry)
    (layout : Layout) :
    (∃ queries events last, Written index registry entries queries events ∧
      describeAll entries index registry = ⟨.ok queries, events⟩ ∧
      batch entries index registry layout = ⟨.ok (match layout with
        | .pretty => pretty queries ++ if entries = [] then "" else "\n"
        | .machine => machine queries), events ++ [last]⟩ ∧
      last.level = .debug ∧ last.message = "rendered queries" ∧
      last.values = [("count", toString entries.length), ("index", index),
        ("format", layout.name)]) ∨
    ∃ name events, Fails index registry entries name events ∧
      describeAll entries index registry = ⟨.error (.unknownField name), events⟩ ∧
      batch entries index registry layout = ⟨.error (.unknownField name), events⟩ := by
  unfold batch
  rcases written_or_fails index registry entries with
    ⟨queries, events, hwritten, hrun⟩ | ⟨name, events, hfails, hrun⟩
  · have hempty : queries = [] ↔ entries = [] := by
      rw [← List.length_eq_zero_iff, hwritten.length_eq, List.length_eq_zero_iff]
    refine .inl ⟨queries, events, .renderedAll entries.length index layout, hwritten, hrun, ?_,
      rfl, rfl, rfl⟩
    rw [hrun, ← hwritten.length_eq]
    cases layout with
    | machine => rfl
    | pretty =>
      simp only [← hempty]
      rfl
  · refine .inr ⟨name, events, hfails, hrun, ?_⟩
    rw [hrun]
    rfl

/-- Without any rules the first entry is refused, and the second is not tried. -/
example : (batch [releaseCompleted, application] "audit" .empty .pretty).events =
    [.unknownField "apiGroup"] := by
  decide +kernel

end AuditSearch.Report
