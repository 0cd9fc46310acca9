import AuditSearch.Proofs.Text.Pieces
import AuditSearch.Query.Filter
import Mathlib.Data.List.TakeWhile

/-!
# The texts of the built-in filters

A built-in filter brings two commands. The first one finds a position in a list of the record and
assigns it to the index field (`findText`); the second one lets a record pass if the position was
found and the lists hold there what they should (`requireText`). The texts are written out here over
the position, so that every place where it is read can be seen in them. They are the commands of the
filters (`StatusCondition.commands_eq`, `TaskResult.commands_eq`), and `fieldAt` is the rule of the
fields that the filters make available (`StatusCondition.get?_schema`, `TaskResult.get?_schema`).

Which field a command assigns is read off its text, too (`assigned?`). The name ends at the first
equals sign, so an index field that holds one makes its command assign another field.
-/

namespace AuditSearch.Query

open Expression Output

/-! ## Texts -/

/-- What `list` has at `position`. -/
def valueAt (list position : String) : String :=
  "mvindex('" ++ list ++ "', " ++ position ++ ")"

/-- What a list should hold at a position. -/
inductive Check where
  | oneOf (list : String) (values : List String)
  | like (list pattern : String)
deriving DecidableEq, Repr

def Check.text (position : String) : Check → String
  | oneOf list values =>
    valueAt list position ++ " IN (" ++
      ", ".intercalate (values.map fun value => "\"" ++ value ++ "\"") ++ ")"
  | like list pattern => "like(" ++ valueAt list position ++ ", \"" ++ pattern ++ "\")"

/-- All checks, behind a condition that stands first. -/
def Check.joined (position : String) (checks : List Check) : String :=
  String.join (checks.map fun check => " AND " ++ check.text position)

/-- Assigns to the field `position` where `list` has `value`. -/
def findText (position list value : String) : String :=
  "eval " ++ position ++ "=mvfind('" ++ list ++ "', \"" ++ value ++ "\")"

/-- Lets a record pass in which the field `position` has a value and all `checks` hold. -/
def requireText (position : String) (checks : List Check) : String :=
  "where isnotnull(" ++ position ++ ")" ++ Check.joined position checks

/-- A field that a built-in filter makes available: what `list` has at `position`. -/
def fieldAt (list position : String) : Rule :=
  { expression := some (valueAt list position), container := some "properties" }

theorem mvindex_eq_valueAt (list position : String) :
    mvindex list position = valueAt list position := by
  have hopen : "mvindex('" = "mvindex(" ++ "'" := rfl
  have hclose : "', " = "'" ++ ", " := rfl
  simp only [mvindex, valueAt, fieldRef, hopen, hclose, String.append_assoc]

theorem oneOf_eq_text (list position : String) (values : List String) :
    mvindex list position ++ " IN (" ++ literalList values ++ ")" =
      (Check.oneOf list values).text position := by
  rw [mvindex_eq_valueAt]
  rfl

theorem like_eq_text (list position pattern : String) :
    "like(" ++ mvindex list position ++ ", " ++ literal pattern ++ ")" =
      (Check.like list pattern).text position := by
  have hopen : ", \"" = ", " ++ "\"" := rfl
  have hclose : "\")" = "\"" ++ ")" := rfl
  simp only [mvindex_eq_valueAt, Check.text, literal, hopen, hclose, String.append_assoc]

theorem eval_eq_findText (position list value : String) :
    "eval " ++ assign position (mvfind list value) = findText position list value := by
  have hopen : "=mvfind('" = "=" ++ ("mvfind(" ++ "'") := rfl
  have hclose : "', \"" = "'" ++ (", " ++ "\"") := rfl
  have hend : "\")" = "\"" ++ ")" := rfl
  simp only [assign, mvfind, findText, fieldRef, literal, hopen, hclose, hend, String.append_assoc]

theorem whereFound_eq_requireText (position : String) (checks : List Check) :
    whereFound position (checks.map (Check.text position)) = requireText position checks := by
  have hjoin := Text.intercalate_eq_join " AND " ("where isnotnull(" ++ position ++ ")")
    (checks.map (Check.text position))
  rw [List.map_map] at hjoin
  exact hjoin

/-! ## Assigned fields -/

def beforeEquals (text : String) : String :=
  String.ofList (text.toList.takeWhile (· ≠ '='))

/-- The field that a command assigns: what stands between `eval ` and the first equals sign. -/
def assigned? (command : String) : Option String :=
  if "eval ".toList <+: command.toList ∧ '=' ∈ command.toList then
    some (beforeEquals (String.ofList (command.toList.drop 5)))
  else none

theorem beforeEquals_append (text rest : String) :
    beforeEquals (text ++ "=" ++ rest) = beforeEquals text := by
  have htext : (text ++ "=" ++ rest).toList = text.toList ++ '=' :: rest.toList := by simp
  unfold beforeEquals
  rw [htext]
  refine congrArg String.ofList ?_
  induction text.toList with
  | nil => rfl
  | cons c cs ih => rw [List.cons_append, List.takeWhile_cons, List.takeWhile_cons, ih]

theorem beforeEquals_of_lacks {text : String} (h : Text.Lacks '=' text) :
    beforeEquals text = text := by
  have hall : ∀ c ∈ text.toList, decide (c ≠ '=') = true :=
    fun c hc => decide_eq_true (ne_of_mem_of_not_mem hc h)
  unfold beforeEquals
  rw [List.takeWhile_eq_self_iff.mpr hall, String.ofList_toList]

theorem assigned?_eval (name value : String) :
    assigned? ("eval " ++ (name ++ "=" ++ value)) = some (beforeEquals name) := by
  have hcommand : ("eval " ++ (name ++ "=" ++ value)).toList =
      "eval ".toList ++ (name ++ "=" ++ value).toList := String.toList_append
  have hmem : '=' ∈ "eval ".toList ++ (name ++ "=" ++ value).toList := by simp
  have hdrop : ("eval ".toList ++ (name ++ "=" ++ value).toList).drop 5 =
      (name ++ "=" ++ value).toList := rfl
  unfold assigned?
  rw [hcommand, if_pos ⟨List.prefix_append _ _, hmem⟩, hdrop, String.ofList_toList,
    beforeEquals_append]

theorem assigned?_findText (position list value : String) :
    assigned? (findText position list value) = some (beforeEquals position) := by
  rw [← eval_eq_findText]
  exact assigned?_eval position (mvfind list value)

theorem assigned?_requireText (position : String) (checks : List Check) :
    assigned? (requireText position checks) = none := by
  have hprefix : ¬ "eval ".toList <+: (requireText position checks).toList := by
    unfold requireText
    rintro ⟨rest, hrest⟩
    simp at hrest
  unfold assigned?
  rw [if_neg (not_and_of_not_left _ hprefix)]

/-! ## Filters -/

namespace StatusCondition

/-- Without values nothing is checked. -/
def oneOfChecks (list : String) (values : List String) : List Check :=
  if values = [] then [] else [.oneOf list values]

def likeChecks (list pattern : String) : List Check :=
  if pattern = "" then [] else [.like list pattern]

variable (condition : StatusCondition)

/-- The pattern for the message. No pattern and an empty one ask for the same. -/
def pattern : String :=
  condition.message.getD ""

def checks : List Check :=
  oneOfChecks "responseObject.status.conditions\x7b\x7d.reason" condition.reasons ++
    oneOfChecks "responseObject.status.conditions\x7b\x7d.status" condition.statuses ++
    likeChecks "responseObject.status.conditions\x7b\x7d.message" condition.pattern

theorem clauses_eq :
    condition.clauses = condition.checks.map (Check.text condition.indexField) := by
  have honeOf : ∀ name values, clauses.oneOf condition name values =
      (oneOfChecks (part name) values).map (Check.text condition.indexField) := by
    intro name values
    unfold clauses.oneOf oneOfChecks
    split_ifs
    · rfl
    · exact congrArg (fun text => [text]) (oneOf_eq_text (part name) condition.indexField values)
  unfold clauses checks
  rw [honeOf, honeOf, List.map_append, List.map_append]
  refine congrArg _ ?_
  unfold likeChecks pattern
  cases condition.message with
  | none => rfl
  | some pattern =>
    by_cases h : pattern = ""
    · subst h
      rfl
    · simp only [Option.getD_some, if_neg h]
      exact congrArg (fun text => [text])
        (like_eq_text (part "message") condition.indexField pattern)

theorem commands_eq :
    condition.filter.commands =
      [findText condition.indexField "responseObject.status.conditions\x7b\x7d.type" condition.kind,
        requireText condition.indexField condition.checks] := by
  have hfind := eval_eq_findText condition.indexField (part "type") condition.kind
  have hrequire := whereFound_eq_requireText condition.indexField condition.checks
  rw [← clauses_eq] at hrequire
  exact congrArg₂ (fun find require => [find, require]) hfind hrequire

theorem get?_schema (name : String) :
    condition.filter.schema.get? name =
      if name = "status_message" then
        some (fieldAt "responseObject.status.conditions\x7b\x7d.message" condition.indexField)
      else if name = "status_reason" then
        some (fieldAt "responseObject.status.conditions\x7b\x7d.reason" condition.indexField)
      else none := by
  have hfield : ∀ name, schema.field condition name = fieldAt (part name) condition.indexField := by
    intro name
    rw [fieldAt, ← mvindex_eq_valueAt]
    rfl
  change ((Schema.empty.insert "status_message" (schema.field condition "message")).insert
    "status_reason" (schema.field condition "reason")).get? name = _
  rw [Schema.get?_insert, Schema.get?_insert, Schema.get?_empty, hfield, hfield]
  by_cases hmessage : name = "status_message"
  · have hreason : "status_reason" ≠ name := by
      rw [hmessage]
      decide
    rw [if_neg hreason, if_pos hmessage.symm, if_pos hmessage]
    rfl
  · rw [if_neg (Ne.symm hmessage), if_neg hmessage]
    by_cases hreason : name = "status_reason"
    · rw [if_pos hreason.symm, if_pos hreason]
      rfl
    · rw [if_neg (Ne.symm hreason), if_neg hreason]

end StatusCondition

namespace TaskResult

variable (result : TaskResult)

theorem commands_eq :
    result.filter.commands =
      [findText result.indexField "responseObject.status.taskResults\x7b\x7d.name" result.name,
        requireText result.indexField []] := by
  have hfind := eval_eq_findText result.indexField (part "name") result.name
  have hrequire := whereFound_eq_requireText result.indexField []
  exact congrArg₂ (fun find require => [find, require]) hfind hrequire

theorem get?_schema (name : String) :
    result.filter.schema.get? name =
      if name = "tekton_task_result" then
        some (fieldAt "responseObject.status.taskResults\x7b\x7d.value" result.indexField)
      else none := by
  have hfield : (Rule.ofExpression result.value).inside filterContainer =
      fieldAt (part "value") result.indexField := by
    rw [fieldAt, ← mvindex_eq_valueAt]
    rfl
  change (Schema.empty.insert "tekton_task_result"
    ((Rule.ofExpression result.value).inside filterContainer)).get? name = _
  rw [Schema.get?_insert, Schema.get?_empty, hfield]
  by_cases hname : name = "tekton_task_result"
  · rw [if_pos hname.symm, if_pos hname]
    rfl
  · rw [if_neg (Ne.symm hname), if_neg hname]

end TaskResult

end AuditSearch.Query
