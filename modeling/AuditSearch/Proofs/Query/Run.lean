import AuditSearch.Journey.Fields
import AuditSearch.Proofs.Audit.Layers

/-!
# Queries after any list of clauses

A query is begun in one of three ways and grows by clauses in any order. Each of its parts obeys
one of three laws: the index and the registry are kept (`addAll_kept`), commands and requested
fields are collected in order (`addAll_collected`), and the API, the predicate and the supplied
rule of a name are those of the last clause that gives them (`addAll_replaced`).
-/

namespace AuditSearch.Query

open Audit Output

/-- How a query is begun. -/
inductive Start where
  /-- No field is asked for, and the rules are those of the registry. -/
  | bare (registry : Registry)
  /-- The fields that every event has are asked for. -/
  | common (registry : Registry)
  /-- The same in the built-in rules. -/
  | builtin
deriving DecidableEq

namespace Start

def query (start : Start) (index : String) : Query :=
  match start with
  | bare registry => Query.start index registry
  | common registry => Journey.query index registry
  | builtin => Journey.builtinQuery index

def registry : Start → Registry
  | bare registry => registry
  | common registry => registry
  | builtin => Journey.registry

def fields : Start → List String
  | bare _ => []
  | common _ => Journey.commonFields
  | builtin => Journey.commonFields

/-- The query after all clauses. -/
def run (start : Start) (index : String) (clauses : List Clause) : Query :=
  (start.query index).addAll clauses

end Start

namespace Clause

def api? : Clause → Option GroupResource
  | .api target => some target
  | _ => none

def predicate? : Clause → Option String
  | .predicate text => some text
  | _ => none

/-- The commands that the clause brings along. -/
def brought : Clause → List String
  | .commands texts => texts
  | .filter added => added.commands
  | _ => []

/-- The fields that the clause asks for. -/
def asked : Clause → List String
  | .fields names => names
  | .event _ => ["event"]
  | _ => []

/-- The rule that the clause supplies for `name`. -/
def supplied? (name : String) : Clause → Option Rule
  | .filter added => added.schema.get? name
  | .event expression => if name = "event" then some (.ofExpression expression) else none
  | _ => none

end Clause

/-- The API of the last clause that names one; without one, every API is searched. -/
def lastApi (clauses : List Clause) : GroupResource :=
  (lastGiven? Clause.api? clauses).getD .any

def lastPredicate (clauses : List Clause) : String :=
  (lastGiven? Clause.predicate? clauses).getD ""

/-! ## The three laws of growth -/

section
variable {α : Type} (query : Query) (clauses : List Clause)

theorem addAll_kept (part : Query → α) (h : ∀ query clause, part (query.add clause) = part query) :
    part (query.addAll clauses) = part query :=
  foldl_kept h query clauses

theorem addAll_collected {part : Query → List α} {given : Clause → List α}
    (h : ∀ query clause, part (query.add clause) = part query ++ given clause) :
    part (query.addAll clauses) = part query ++ clauses.flatMap given := by
  induction clauses generalizing query with
  | nil => exact (List.append_nil _).symm
  | cons clause rest ih =>
    have hrest := ih (query.add clause)
    rw [h, List.append_assoc] at hrest
    exact hrest

theorem addAll_replaced {part : Query → α} {given? : Clause → Option α}
    (h : ∀ query clause, part (query.add clause) = (given? clause).getD (part query)) :
    part (query.addAll clauses) = (lastGiven? given? clauses).getD (part query) :=
  foldl_lastGiven?_getD h query clauses

theorem index_addAll : (query.addAll clauses).index = query.index := by
  have hstep : ∀ (query : Query) (clause : Clause), (query.add clause).index = query.index := by
    intro query clause
    cases clause <;> rfl
  exact addAll_kept query clauses Query.index hstep

theorem registry_addAll : (query.addAll clauses).registry = query.registry := by
  have hstep : ∀ (query : Query) (clause : Clause),
      (query.add clause).registry = query.registry := by
    intro query clause
    cases clause <;> rfl
  exact addAll_kept query clauses Query.registry hstep

theorem commands_addAll :
    (query.addAll clauses).commands = query.commands ++ clauses.flatMap Clause.brought := by
  have hstep : ∀ (query : Query) (clause : Clause),
      (query.add clause).commands = query.commands ++ clause.brought := by
    intro query clause
    cases clause <;> simp [add, Clause.brought]
  exact addAll_collected query clauses hstep

theorem requested_addAll :
    (query.addAll clauses).requested = query.requested ++ clauses.flatMap Clause.asked := by
  have hstep : ∀ (query : Query) (clause : Clause),
      (query.add clause).requested = query.requested ++ clause.asked := by
    intro query clause
    cases clause <;> simp [add, Clause.asked, eventField]
  exact addAll_collected query clauses hstep

theorem api_addAll :
    (query.addAll clauses).api = (lastGiven? Clause.api? clauses).getD query.api := by
  have hstep : ∀ (query : Query) (clause : Clause),
      (query.add clause).api = clause.api?.getD query.api := by
    intro query clause
    cases clause <;> rfl
  exact addAll_replaced query clauses hstep

theorem predicate_addAll :
    (query.addAll clauses).predicate =
      (lastGiven? Clause.predicate? clauses).getD query.predicate := by
  have hstep : ∀ (query : Query) (clause : Clause),
      (query.add clause).predicate = clause.predicate?.getD query.predicate := by
    intro query clause
    cases clause <;> rfl
  exact addAll_replaced query clauses hstep

/-- Filters and event expressions are laid over what was supplied before them. -/
theorem get?_supplied_add (clause : Clause) (name : String) :
    (query.add clause).supplied.get? name =
      (clause.supplied? name).or (query.supplied.get? name) := by
  cases clause with
  | filter added => exact Schema.get?_overlay query.supplied added.schema name
  | event expression =>
    have hinsert := Schema.get?_insert query.supplied eventField name (.ofExpression expression)
    refine hinsert.trans ?_
    by_cases h : name = "event"
    · subst h
      rfl
    · have hsupplied : Clause.supplied? name (.event expression) = none := if_neg h
      have hne : eventField ≠ name := Ne.symm h
      rw [hsupplied, if_neg hne, Option.none_or]
  | _ => rfl

theorem get?_supplied_addAll (name : String) :
    (query.addAll clauses).supplied.get? name =
      (lastGiven? (Clause.supplied? name) clauses).or (query.supplied.get? name) :=
  foldl_lastGiven? (fun query : Query => query.supplied.get? name)
    (fun query clause => get?_supplied_add query clause name) query clauses

end

/-! ## Runs from a start -/

namespace Start

variable (start : Start) (index : String) (clauses : List Clause)

theorem index_run : (start.run index clauses).index = index := by
  rw [run, index_addAll]
  cases start <;> rfl

theorem registry_run : (start.run index clauses).registry = start.registry := by
  rw [run, registry_addAll]
  cases start <;> rfl

theorem api_run : (start.run index clauses).api = lastApi clauses := by
  have hstart : (start.query index).api = .any := by cases start <;> rfl
  rw [run, api_addAll, hstart, lastApi]

theorem predicate_run : (start.run index clauses).predicate = lastPredicate clauses := by
  have hstart : (start.query index).predicate = "" := by cases start <;> rfl
  rw [run, predicate_addAll, hstart, lastPredicate]

theorem commands_run :
    (start.run index clauses).commands = clauses.flatMap Clause.brought := by
  have hstart : (start.query index).commands = [] := by cases start <;> rfl
  rw [run, commands_addAll, hstart, List.nil_append]

theorem requested_run :
    (start.run index clauses).requested = start.fields ++ clauses.flatMap Clause.asked := by
  have hstart : (start.query index).requested = start.fields := by cases start <;> rfl
  rw [run, requested_addAll, hstart]

theorem get?_supplied_run (name : String) :
    (start.run index clauses).supplied.get? name =
      lastGiven? (Clause.supplied? name) clauses := by
  have hstart : (start.query index).supplied = .empty := by cases start <;> rfl
  rw [run, get?_supplied_addAll, hstart, Schema.get?_empty, Option.or_none]

end Start

end AuditSearch.Query
