import AuditSearch.Proofs.Query.Outcome
import AuditSearch.Proofs.Query.Positions

/-!
# Several built-in filters in one query

Commands of filters are appended, while the fields of a later filter replace those of an earlier one.
The two halves of a filter can thus come apart. They fit as long as every filter has an index field of
its own: the commands of each filter stay together (`exists_blocks`) and no other filter assigns its
index field (`filter_assigned`), so a field that survives reads a position that was found for it
(`lookups_intact`).

What is given to a filter stands in its commands verbatim. An index field with an equals sign makes
its command assign what stands in front of the sign, which may be the index field of another filter,
and a value with quotes may bring an `mvindex(` of its own (`lookups_reassigned`).
-/

namespace AuditSearch.Query

open Audit Expression Output

/-- A filter of one of the built-in kinds. -/
inductive Lookup where
  | status (condition : StatusCondition)
  | task (result : TaskResult)
deriving DecidableEq, Repr

namespace Lookup

def filter : Lookup → Filter
  | status condition => condition.filter
  | task result => result.filter

def indexField : Lookup → String
  | status condition => condition.indexField
  | task result => result.indexField

def condition? : Lookup → Option StatusCondition
  | status condition => some condition
  | task _ => none

def result? : Lookup → Option TaskResult
  | status _ => none
  | task result => some result

/-- The command that finds the position. -/
def find : Lookup → String
  | status condition =>
    findText condition.indexField "responseObject.status.conditions\x7b\x7d.type" condition.kind
  | task result =>
    findText result.indexField "responseObject.status.taskResults\x7b\x7d.name" result.name

def checks : Lookup → List Check
  | status condition => condition.checks
  | task _ => []

/-- What stands in the command that reads as it was given. -/
def given : Lookup → List String
  | status condition => condition.given
  | task result => [result.indexField]

/-- The command that reads at the position. -/
def require (lookup : Lookup) : String :=
  requireText lookup.indexField lookup.checks

end Lookup

namespace Clause

def filter? : Clause → Option Filter
  | .filter added => some added
  | _ => none

/-- The commands of the clause that do not come from a filter. -/
def texts : Clause → List String
  | .commands plain => plain
  | _ => []

end Clause

/-- Commands that stand together. -/
inductive Block where
  | lookup (added : Lookup)
  | plain (texts : List String)
deriving DecidableEq, Repr

namespace Block

def commands : Block → List String
  | lookup added => [added.find, added.require]
  | plain texts => texts

def lookup? : Block → Option Lookup
  | lookup added => some added
  | plain _ => none

def others : Block → List String
  | lookup _ => []
  | plain texts => texts

end Block

/-! ## Commands -/

theorem Lookup.commands_eq (lookup : Lookup) :
    lookup.filter.commands = [lookup.find, lookup.require] := by
  cases lookup with
  | status condition => exact condition.commands_eq
  | task result => exact result.commands_eq

theorem Clause.brought_of_not_filter {clause : Clause} (h : clause.filter? = none) :
    clause.brought = clause.texts := by
  cases clause with
  | filter other => exact nomatch h
  | _ => rfl

theorem Clause.eq_filter {clause : Clause} {added : Filter} (h : clause.filter? = some added) :
    clause = .filter added := by
  cases clause with
  | filter other => exact congrArg Clause.filter (Option.some.inj h)
  | _ => exact nomatch h

section
variable {clauses : List Clause} {lookups : List Lookup}

theorem exists_blocks (h : clauses.filterMap Clause.filter? = lookups.map Lookup.filter) :
    ∃ blocks : List Block, clauses.flatMap Clause.brought = blocks.flatMap Block.commands ∧
      blocks.filterMap Block.lookup? = lookups ∧
      blocks.flatMap Block.others = clauses.flatMap Clause.texts := by
  -- A clause that is a filter takes the first of the lookups that are left.
  induction clauses generalizing lookups with
  | nil =>
    have hnil : lookups = [] := List.map_eq_nil_iff.mp h.symm
    exact ⟨[], rfl, hnil.symm, rfl⟩
  | cons clause rest ih =>
    cases hfilter : clause.filter? with
    | none =>
      rw [List.filterMap_cons_none hfilter] at h
      obtain ⟨blocks, hcommands, hlookups, hothers⟩ := ih h
      refine ⟨.plain clause.texts :: blocks, ?_, hlookups, ?_⟩
      · rw [List.flatMap_cons, List.flatMap_cons, hcommands, Clause.brought_of_not_filter hfilter]
        rfl
      · rw [List.flatMap_cons, List.flatMap_cons, hothers]
        rfl
    | some added =>
      obtain rfl := Clause.eq_filter hfilter
      rw [List.filterMap_cons_some hfilter] at h
      obtain ⟨lookup, more, rfl, hadded, hmore⟩ := List.map_eq_cons_iff.mp h.symm
      obtain ⟨blocks, hcommands, hlookups, hothers⟩ := ih hmore.symm
      refine ⟨.lookup lookup :: blocks, ?_, ?_, hothers⟩
      · have hbrought : Clause.brought (.filter added) = Block.commands (.lookup lookup) := by
          rw [← hadded]
          exact lookup.commands_eq
        rw [List.flatMap_cons, List.flatMap_cons, hcommands, hbrought]
      · exact congrArg (List.cons lookup) hlookups

/-! ## Index fields -/

theorem Lookup.assigned?_find (lookup : Lookup) :
    assigned? lookup.find = some (beforeEquals lookup.indexField) := by
  cases lookup <;> exact assigned?_findText _ _ _

theorem Lookup.assigned?_require (lookup : Lookup) : assigned? lookup.require = none :=
  assigned?_requireText _ _

theorem Lookup.indexField_of_assigned {lookup : Lookup} (h : Text.Lacks '=' lookup.indexField)
    {command : String} (hcommand : command ∈ lookup.filter.commands) {name : String}
    (hassigned : assigned? command = some name) : lookup.indexField = name := by
  rw [lookup.commands_eq, List.mem_pair] at hcommand
  rcases hcommand with rfl | rfl
  · rw [assigned?_find, beforeEquals_of_lacks h] at hassigned
    exact Option.some.inj hassigned
  · rw [assigned?_require] at hassigned
    exact nomatch hassigned

theorem filter_assigned_eq_nil (h : ∀ lookup ∈ lookups, Text.Lacks '=' lookup.indexField)
    {name : String} (hname : name ∉ lookups.map Lookup.indexField) :
    (lookups.flatMap fun lookup => lookup.filter.commands).filter
      (fun command => assigned? command = some name) = [] := by
  rw [List.filter_eq_nil_iff]
  intro command hcommand hassigned
  obtain ⟨lookup, hlookup, hmem⟩ := List.mem_flatMap.mp hcommand
  have hfield := Lookup.indexField_of_assigned (h lookup hlookup) hmem (of_decide_eq_true hassigned)
  exact hname (List.mem_map.mpr ⟨lookup, hlookup, hfield⟩)

theorem filter_assigned_self {lookup : Lookup} (h : Text.Lacks '=' lookup.indexField) :
    lookup.filter.commands.filter (fun command => assigned? command = some lookup.indexField) =
      [lookup.find] := by
  rw [lookup.commands_eq]
  simp [lookup.assigned?_find, lookup.assigned?_require, beforeEquals_of_lacks h]

theorem filter_assigned (hfields : (lookups.map Lookup.indexField).Nodup)
    (h : ∀ lookup ∈ lookups, Text.Lacks '=' lookup.indexField) {lookup : Lookup}
    (hmem : lookup ∈ lookups) :
    (lookups.flatMap fun other => other.filter.commands).filter
      (fun command => assigned? command = some lookup.indexField) = [lookup.find] := by
  obtain ⟨before, after, rfl⟩ := List.append_of_mem hmem
  rw [List.map_append, List.map_cons, List.nodup_middle, List.nodup_cons, List.mem_append,
    not_or] at hfields
  rw [List.forall_mem_append, List.forall_mem_cons] at h
  rw [List.flatMap_append, List.flatMap_cons, List.filter_append, List.filter_append,
    filter_assigned_eq_nil h.1 hfields.1.1, filter_assigned_eq_nil h.2.2 hfields.1.2,
    filter_assigned_self h.2.1, List.nil_append, List.append_nil]

theorem Lookup.readsAt_require {lookup : Lookup}
    (h : ∀ text ∈ lookup.given, Text.Unmarked "mvindex(" text) :
    ReadsAt lookup.indexField lookup.require := by
  cases lookup with
  | status condition => exact condition.readsAt_requireText h
  | task result =>
    have hjoined : Text.Unmarked "mvindex(" "" :=
      Text.unmarked_of_lacks (c := 'm') (by decide) (by decide)
    exact readsAt_requireText (List.forall_mem_singleton.mp h) hjoined.followed

/-! ## Fields -/

theorem supplied?_eq_bind {name : String} (hname : name ≠ "event") (clause : Clause) :
    clause.supplied? name = clause.filter?.bind fun added => added.schema.get? name := by
  cases clause with
  | event expression => exact if_neg hname
  | _ => rfl

/-- For a name that filters of one kind have a rule for, the last of them counts. -/
theorem get?_schema_of_kind {α : Type} {kind? : Lookup → Option α} {name : String}
    {rule : α → Rule} (start : Start) (index : String)
    (h : clauses.filterMap Clause.filter? = lookups.map Lookup.filter) (hname : name ≠ "event")
    (hrule : ∀ lookup : Lookup, lookup.filter.schema.get? name = (kind? lookup).map rule) :
    (start.run index clauses).schema.get? name =
      ((lastGiven? kind? lookups).map rule).or
        ((start.registry.effective (lastApi clauses) []).get? name) := by
  have hsupplied : Clause.supplied? name =
      fun clause => clause.filter?.bind fun added => added.schema.get? name :=
    funext (supplied?_eq_bind hname)
  have hlookups : lastGiven? (fun lookup : Lookup => lookup.filter.schema.get? name) lookups =
      (lastGiven? kind? lookups).map rule := by
    rw [map_lastGiven?, ← funext hrule]
  rw [get?_schema_eq_or, Registry.get?_effective_nil, hsupplied,
    ← lastGiven?_filterMap (fun added : Filter => added.schema.get? name), h, lastGiven?_map,
    hlookups]

theorem rule?_message (lookup : Lookup) :
    lookup.filter.schema.get? "status_message" = lookup.condition?.map fun condition =>
      fieldAt "responseObject.status.conditions\x7b\x7d.message" condition.indexField := by
  cases lookup with
  | status condition => exact condition.get?_schema _
  | task result => exact result.get?_schema _

theorem rule?_reason (lookup : Lookup) :
    lookup.filter.schema.get? "status_reason" = lookup.condition?.map fun condition =>
      fieldAt "responseObject.status.conditions\x7b\x7d.reason" condition.indexField := by
  cases lookup with
  | status condition => exact condition.get?_schema _
  | task result => exact result.get?_schema _

theorem rule?_result (lookup : Lookup) :
    lookup.filter.schema.get? "tekton_task_result" = lookup.result?.map fun result =>
      fieldAt "responseObject.status.taskResults\x7b\x7d.value" result.indexField := by
  cases lookup with
  | status condition => exact condition.get?_schema _
  | task result => exact result.get?_schema _

theorem mem_of_last_condition {condition : StatusCondition}
    (h : lastGiven? Lookup.condition? lookups = some condition) : .status condition ∈ lookups := by
  obtain ⟨lookup, hmem, hcondition⟩ := exists_of_lastGiven?_eq_some h
  cases lookup with
  | status other => exact Option.some.inj hcondition ▸ hmem
  | task result => exact nomatch hcondition

theorem mem_of_last_result {result : TaskResult}
    (h : lastGiven? Lookup.result? lookups = some result) : .task result ∈ lookups := by
  obtain ⟨lookup, hmem, hresult⟩ := exists_of_lastGiven?_eq_some h
  cases lookup with
  | status condition => exact nomatch hresult
  | task other => exact Option.some.inj hresult ▸ hmem

/-- If every filter is of a built-in kind and has an index field of its own, the commands of each
stand together, in the order in which the filters were added. Of all their commands only the one that
finds the position assigns the index field, if no index field holds an equals sign, and the other one
reads at no other position, if nothing that stands in it as it was given holds an `mvindex(`. The last
filter of each kind gives the fields of its kind, which read at that filter's position; without a
filter of the kind they are those of the registry. -/
theorem lookups_intact (start : Start) (index : String)
    (hfilters : clauses.filterMap Clause.filter? = lookups.map Lookup.filter)
    (hfields : (lookups.map Lookup.indexField).Nodup) :
    (∃ blocks : List Block,
      (start.run index clauses).commands = blocks.flatMap Block.commands ∧
      blocks.filterMap Block.lookup? = lookups ∧
      blocks.flatMap Block.others = clauses.flatMap Clause.texts) ∧
    ((∀ lookup ∈ lookups, Text.Lacks '=' lookup.indexField) → ∀ lookup ∈ lookups,
      (lookups.flatMap fun other => other.filter.commands).filter
        (fun command => assigned? command = some lookup.indexField) = [lookup.find]) ∧
    (∀ lookup ∈ lookups, (∀ text ∈ lookup.given, Text.Unmarked "mvindex(" text) →
      ReadsAt lookup.indexField lookup.require) ∧
    (∀ condition, lastGiven? Lookup.condition? lookups = some condition →
      .status condition ∈ lookups ∧
      (start.run index clauses).schema.get? "status_message" =
        some (fieldAt "responseObject.status.conditions\x7b\x7d.message" condition.indexField) ∧
      (start.run index clauses).schema.get? "status_reason" =
        some (fieldAt "responseObject.status.conditions\x7b\x7d.reason" condition.indexField)) ∧
    (lastGiven? Lookup.condition? lookups = none →
      ∀ name ∈ ["status_message", "status_reason"],
        (start.run index clauses).schema.get? name =
          (start.registry.effective (lastApi clauses) []).get? name) ∧
    (∀ result, lastGiven? Lookup.result? lookups = some result →
      .task result ∈ lookups ∧
      (start.run index clauses).schema.get? "tekton_task_result" =
        some (fieldAt "responseObject.status.taskResults\x7b\x7d.value" result.indexField)) ∧
    (lastGiven? Lookup.result? lookups = none →
      (start.run index clauses).schema.get? "tekton_task_result" =
        (start.registry.effective (lastApi clauses) []).get? "tekton_task_result") := by
  have hmessage := get?_schema_of_kind start index hfilters (by decide) rule?_message
  have hreason := get?_schema_of_kind start index hfilters (by decide) rule?_reason
  have hresult := get?_schema_of_kind start index hfilters (by decide) rule?_result
  refine ⟨?_, fun h _ => filter_assigned hfields h, fun _ _ => Lookup.readsAt_require,
    ?_, ?_, ?_, ?_⟩
  · rw [Start.commands_run]
    exact exists_blocks hfilters
  · intro condition hlast
    rw [hlast] at hmessage hreason
    exact ⟨mem_of_last_condition hlast, hmessage, hreason⟩
  · intro hlast
    rw [hlast] at hmessage hreason
    simp only [List.forall_mem_cons, List.not_mem_nil, false_implies, implies_true, and_true]
    exact ⟨hmessage, hreason⟩
  · intro result hlast
    rw [hlast] at hresult
    exact ⟨mem_of_last_result hlast, hresult⟩
  · intro hlast
    rw [hlast] at hresult
    exact hresult

end

/-- Two conditions and a result of a task, with other clauses around them. The reason is read at the
position that the second condition has found. -/
theorem lookups_intact_releases :
    let released : StatusCondition := { kind := "Released" }
    let ready : StatusCondition := { kind := "Ready", indexField := "ready", reasons := ["Done"] }
    let scan : TaskResult := { name := "SCAN" }
    let clauses : List Clause :=
      [.filter released.filter, .commands ["dedup name"], .event "1", .filter scan.filter,
        .api Journey.releases, .filter ready.filter, .fields ["status_reason"]]
    let lookups : List Lookup := [.status released, .task scan, .status ready]
    clauses.filterMap Clause.filter? = lookups.map Lookup.filter ∧
      (lookups.map Lookup.indexField).Nodup ∧
      (∀ lookup ∈ lookups, Text.Lacks '=' lookup.indexField) ∧
      (∀ text ∈ ready.given, Text.Unmarked "mvindex(" text) ∧
      (Start.builtin.run "audit" clauses).schema.get? "status_reason" =
        some (fieldAt "responseObject.status.conditions\x7b\x7d.reason" "ready") ∧
      (lookups.flatMap fun other => other.filter.commands).filter
          (fun command => assigned? command = some "ready") =
        ["eval ready=mvfind('responseObject.status.conditions\x7b\x7d.type', \"Ready\")"] ∧
      ReadsAt "ready" (Lookup.status ready).require := by
  intro released ready scan clauses lookups
  have hfilters : clauses.filterMap Clause.filter? = lookups.map Lookup.filter := rfl
  have hfields : (lookups.map Lookup.indexField).Nodup := by decide
  have hequals : ∀ lookup ∈ lookups, Text.Lacks '=' lookup.indexField := by decide
  have hgiven : ∀ text ∈ ready.given, Text.Unmarked "mvindex(" text := by
    have hlacks : ∀ text ∈ ready.given, Text.Lacks 'v' text := by decide
    exact fun text htext => Text.unmarked_of_lacks (by decide) (hlacks text htext)
  obtain ⟨-, hassigned, hreads, hcondition, -, -, -⟩ :=
    lookups_intact .builtin "audit" hfilters hfields
  obtain ⟨hmem, -, hreason⟩ := hcondition ready rfl
  have hfind := hassigned hequals (.status ready) hmem
  have hrequire := hreads (.status ready) hmem hgiven
  exact ⟨hfilters, hfields, hequals, hgiven, hreason, hfind, hrequire⟩

/-- Two filters with index fields of their own, `x` and `x=y`, both assign `x`, and a reason with
quotes makes the first one read at `0`. -/
theorem lookups_reassigned :
    let ready : StatusCondition :=
      { kind := "Ready", indexField := "x", reasons := ["Done\", mvindex('a', 0), \""] }
    let failed : StatusCondition := { kind := "Failed", indexField := "x=y" }
    let clauses : List Clause := [.filter ready.filter, .filter failed.filter]
    let lookups : List Lookup := [.status ready, .status failed]
    clauses.filterMap Clause.filter? = lookups.map Lookup.filter ∧
      (lookups.map Lookup.indexField).Nodup ∧
      (Start.builtin.run "audit" clauses).commands.filter
          (fun command => assigned? command = some "x") =
        ["eval x=mvfind('responseObject.status.conditions\x7b\x7d.type', \"Ready\")",
          "eval x=y=mvfind('responseObject.status.conditions\x7b\x7d.type', \"Failed\")"] ∧
      (¬ ∀ lookup ∈ lookups,
        (lookups.flatMap fun other => other.filter.commands).filter
          (fun command => assigned? command = some lookup.indexField) = [lookup.find]) ∧
      ¬ ∀ lookup ∈ lookups, ReadsAt lookup.indexField lookup.require := by
  intro ready failed clauses lookups
  have hready : assigned? (Lookup.status ready).find = some "x" :=
    (Lookup.assigned?_find _).trans (congrArg some (beforeEquals_of_lacks (by decide)))
  have hfailed : assigned? (Lookup.status failed).find = some "x" := by
    have hfront : beforeEquals "x=y" = "x" :=
      (beforeEquals_append "x" "y").trans (beforeEquals_of_lacks (by decide))
    exact (Lookup.assigned?_find _).trans (congrArg some hfront)
  have hassigned : (lookups.flatMap fun other => other.filter.commands).filter
      (fun command => assigned? command = some "x") =
        [(Lookup.status ready).find, (Lookup.status failed).find] := by
    simp [lookups, Lookup.commands_eq, hready, hfailed, Lookup.assigned?_require]
  refine ⟨rfl, by decide, ?_, fun hall => ?_, fun hall => ?_⟩
  · rw [Start.commands_run]
    exact hassigned
  · have hone := hall (.status ready) List.mem_cons_self
    have htwo := congrArg List.length (hassigned.symm.trans hone)
    exact absurd htwo (by decide)
  · have hreads := hall (.status ready) List.mem_cons_self
    have htext : (Lookup.status ready).require =
        "where isnotnull(x) AND mvindex('responseObject.status.conditions\x7b\x7d.reason', x)" ++
          " IN (\"Done\", " ++ valueAt "a" "0" ++ ", \"\")" := rfl
    rw [htext] at hreads
    obtain ⟨rest, hrest⟩ := ReadsAt.position_of_valueAt (by decide) hreads
    have hzero : "0" ++ ")" ++ ", \"\")" = "x" ++ ")" ++ rest := hrest
    simpa using congrArg String.toList hzero

end AuditSearch.Query
