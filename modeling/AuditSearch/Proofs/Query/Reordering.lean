import AuditSearch.Proofs.Query.Traces
import Mathlib.Tactic.Tauto

/-!
# Clauses in another order

Only clauses of one kind stand in an order that matters: those that name an API, those that set
the predicate, those that bring commands, and those that supply rules. A filter is of the last two
kinds. A clause that only asks for fields has no place of its own, and how the names are spread
over such clauses is free. What a run of clauses comes to is given by its parts of each kind
(`lastGiven?_filter`, `flatMap_filter`), so lists of clauses with the same parts come to the same
search (`search_run_of_rearranged`), the same request (`request_run_of_rearranged`) and the same
rules (`schema_run_of_rearranged`).
-/

namespace AuditSearch.Query

open Audit Output

/-- Steps that give nothing may be left out. -/
theorem flatMap_filter {τ α : Type} {given : τ → List α} {p : τ → Bool}
    (h : ∀ step, p step = false → given step = []) (steps : List τ) :
    (steps.filter p).flatMap given = steps.flatMap given := by
  induction steps with
  | nil => rfl
  | cons step rest ih =>
    cases hp : p step with
    | true => rw [List.filter_cons_of_pos hp, List.flatMap_cons, List.flatMap_cons, ih]
    | false =>
      rw [List.filter_cons_of_neg (by rw [hp]; decide), List.flatMap_cons, ih, h step hp,
        List.nil_append]

namespace Clause

def namesApi : Clause → Bool
  | .api _ => true
  | _ => false

def setsPredicate : Clause → Bool
  | .predicate _ => true
  | _ => false

def bringsCommands : Clause → Bool
  | .commands _ => true
  | .filter _ => true
  | _ => false

def suppliesRules : Clause → Bool
  | .filter _ => true
  | .event _ => true
  | _ => false

/-- The names in a clause that only asks for fields. -/
def listed : Clause → List String
  | .fields names => names
  | _ => []

theorem api?_of_not {clause : Clause} (h : clause.namesApi = false) : clause.api? = none := by
  cases clause <;> first | rfl | exact nomatch h

theorem predicate?_of_not {clause : Clause} (h : clause.setsPredicate = false) :
    clause.predicate? = none := by
  cases clause <;> first | rfl | exact nomatch h

theorem brought_of_not {clause : Clause} (h : clause.bringsCommands = false) :
    clause.brought = [] := by
  cases clause <;> first | rfl | exact nomatch h

theorem supplied?_of_not {clause : Clause} (h : clause.suppliesRules = false) (name : String) :
    clause.supplied? name = none := by
  cases clause <;> first | rfl | exact nomatch h

/-- A clause asks for fields by listing them or because it supplies the rule of one. -/
theorem mem_asked_iff_listed {clause : Clause} {name : String} :
    name ∈ clause.asked ↔
      name ∈ clause.listed ∨ clause.suppliesRules = true ∧ name ∈ clause.asked := by
  cases clause <;> simp [asked, listed, suppliesRules]

theorem mem_flatMap_asked_iff (clauses : List Clause) (name : String) :
    name ∈ clauses.flatMap asked ↔
      name ∈ clauses.flatMap listed ∨ name ∈ (clauses.filter suppliesRules).flatMap asked := by
  simp only [List.mem_flatMap, List.mem_filter, ← exists_or]
  refine exists_congr fun clause => ?_
  rw [and_assoc, ← and_or_left]
  exact and_congr_right fun _ => mem_asked_iff_listed

end Clause

/-- The clauses of `others` are those of `clauses` in an order in which clauses of one kind keep
theirs. The clauses that list fields may be any that list the same names. -/
structure Rearranged (clauses others : List Clause) : Prop where
  apis : clauses.filter Clause.namesApi = others.filter Clause.namesApi
  predicates : clauses.filter Clause.setsPredicate = others.filter Clause.setsPredicate
  commands : clauses.filter Clause.bringsCommands = others.filter Clause.bringsCommands
  rules : clauses.filter Clause.suppliesRules = others.filter Clause.suppliesRules
  fields : ∀ name, name ∈ clauses.flatMap Clause.listed ↔ name ∈ others.flatMap Clause.listed

namespace Rearranged

variable {clauses others : List Clause}

theorem lastApi_eq (h : Rearranged clauses others) : lastApi clauses = lastApi others := by
  have hkind : ∀ clause : Clause, clause.namesApi = false → clause.api? = none :=
    fun _ => Clause.api?_of_not
  rw [lastApi, ← lastGiven?_filter hkind, h.apis, lastGiven?_filter hkind, lastApi]

theorem lastPredicate_eq (h : Rearranged clauses others) :
    lastPredicate clauses = lastPredicate others := by
  have hkind : ∀ clause : Clause, clause.setsPredicate = false → clause.predicate? = none :=
    fun _ => Clause.predicate?_of_not
  rw [lastPredicate, ← lastGiven?_filter hkind, h.predicates, lastGiven?_filter hkind,
    lastPredicate]

theorem brought_eq (h : Rearranged clauses others) :
    clauses.flatMap Clause.brought = others.flatMap Clause.brought := by
  have hkind : ∀ clause : Clause, clause.bringsCommands = false → clause.brought = [] :=
    fun _ => Clause.brought_of_not
  rw [← flatMap_filter hkind, h.commands, flatMap_filter hkind]

theorem supplied?_eq (h : Rearranged clauses others) (name : String) :
    lastGiven? (Clause.supplied? name) clauses = lastGiven? (Clause.supplied? name) others := by
  have hkind : ∀ clause : Clause, clause.suppliesRules = false → clause.supplied? name = none :=
    fun _ hclause => Clause.supplied?_of_not hclause name
  rw [← lastGiven?_filter hkind, h.rules, lastGiven?_filter hkind]

theorem mem_asked_iff (h : Rearranged clauses others) (start : Start) (name : String) :
    name ∈ start.asked clauses ↔ name ∈ start.asked others := by
  rw [Start.asked, Start.asked, List.mem_append, List.mem_append,
    Clause.mem_flatMap_asked_iff clauses, Clause.mem_flatMap_asked_iff others, h.fields, h.rules]

end Rearranged

section
variable {clauses others : List Clause} (start : Start) (index : String)

theorem search_run_of_rearranged (h : Rearranged clauses others) :
    (start.run index clauses).search = (start.run index others).search := by
  rw [search_run, search_run, h.lastApi_eq, h.lastPredicate_eq, h.brought_eq]

theorem request_run_of_rearranged (h : Rearranged clauses others) :
    (start.run index clauses).request = (start.run index others).request := by
  unfold request
  rw [requested_eq_asked, requested_eq_asked]
  exact Text.ascending_congr (h.mem_asked_iff start)

theorem schema_run_of_rearranged (h : Rearranged clauses others) :
    (start.run index clauses).schema = (start.run index others).schema := by
  apply Schema.ext_get?
  intro name
  rw [get?_schema_eq_or, get?_schema_eq_or, h.supplied?_eq, h.lastApi_eq]

/-- Clauses of different kinds may be moved past each other, and fields may be asked for anywhere,
in any order and more than once: the text or the failure and the event stay the same. -/
theorem trace_run_of_rearranged (h : Rearranged clauses others) :
    (start.run index clauses).render = (start.run index others).render ∧
    (start.run index clauses).trace = (start.run index others).trace := by
  have htrace : (start.run index clauses).trace = (start.run index others).trace := by
    refine trace_congr (search_run_of_rearranged start index h)
      (request_run_of_rearranged start index h) ?_
    rw [schema_run_of_rearranged start index h]
    exact fun _ _ => rfl
  exact ⟨(render_of_trace htrace).trans (outcome_trace _), htrace⟩

/-- The API and the filter change places with what is around them, and the fields are asked for in
two steps. -/
theorem trace_run_of_rearranged_release :
    let condition : StatusCondition := { kind := "Released" }
    let clauses : List Clause :=
      [.api Journey.components, .filter condition.filter, .fields ["name", "status_reason"],
        .api Journey.releases, .commands ["dedup name"], .event "1", .predicate "verb=update"]
    let others : List Clause :=
      [.fields ["status_reason"], .predicate "verb=update", .api Journey.components,
        .api Journey.releases, .filter condition.filter, .event "1", .commands ["dedup name"],
        .fields ["status_reason", "name", "name"]]
    Rearranged clauses others ∧
      (Start.builtin.run "audit" clauses).trace = (Start.builtin.run "audit" others).trace := by
  intro condition clauses others
  have hfields : ∀ name,
      name ∈ clauses.flatMap Clause.listed ↔ name ∈ others.flatMap Clause.listed := by
    intro name
    change name ∈ ["name", "status_reason"] ↔
      name ∈ ["status_reason", "status_reason", "name", "name"]
    simp only [List.mem_cons, List.not_mem_nil, or_false]
    tauto
  have h : Rearranged clauses others := ⟨rfl, rfl, rfl, rfl, hfields⟩
  exact ⟨h, (trace_run_of_rearranged .builtin "audit" h).2⟩

end

end AuditSearch.Query
