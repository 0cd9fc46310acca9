import AuditSearch.Output.Schema

/-!
# Filters

A `Filter` narrows a search by commands and offers fields that can be computed once the commands
have run. Two kinds are built in. Both look for a value in a list inside the record, keep its
position in an index field, and read other lists at that position.
-/

namespace AuditSearch.Query

open Expression Output

structure Filter where
  /-- The commands, in the order in which they run right after the search. -/
  commands : List String
  /-- The fields that the filter makes available. -/
  schema : Schema
deriving DecidableEq

/-- The object that receives the fields of the built-in filters. -/
def filterContainer : String := "properties"

/-- Keeps the records in which `indexField` was given a value and all `clauses` hold. -/
def whereFound (indexField : String) (clauses : List String) : String :=
  " AND ".intercalate (("where isnotnull(" ++ indexField ++ ")") :: clauses)

/-- Looks for a status condition of an object by its type. -/
structure StatusCondition where
  kind : String
  /-- The field that holds the position of the condition. -/
  indexField : String := "status_condition_index"
  /-- The reasons that are let through; without any, all are. -/
  reasons : List String := []
  /-- The statuses that are let through; without any, all are. -/
  statuses : List String := []
  /-- A pattern for the message, in which a percent sign stands for any text. -/
  message : Option String := none
deriving DecidableEq, Repr

namespace StatusCondition

/-- The list that holds one part of every condition of an object. -/
def part (name : String) : String :=
  "responseObject.status.conditions\x7b\x7d." ++ name

/-- Reads `field` at the position of the condition. -/
def reading (condition : StatusCondition) (field : String) : String :=
  mvindex field condition.indexField

/-- A setting of a condition. -/
inductive Setting where
  | reasons (values : List String)
  | statuses (values : List String)
  | message (pattern : String)
  /-- All three of the settings above. -/
  | options (reasons statuses : List String) (message : Option String)
  | indexField (name : String)
deriving DecidableEq, Repr

def set (condition : StatusCondition) : Setting → StatusCondition
  | .reasons values => { condition with reasons := values }
  | .statuses values => { condition with statuses := values }
  | .message pattern => { condition with message := some pattern }
  | .options reasons statuses message => { condition with reasons, statuses, message }
  | .indexField name => { condition with indexField := name }

def setAll (condition : StatusCondition) (settings : List Setting) : StatusCondition :=
  settings.foldl set condition

/-- What has to hold of the condition. An empty pattern asks for nothing. -/
def clauses (condition : StatusCondition) : List String :=
  oneOf "reason" condition.reasons ++ oneOf "status" condition.statuses ++
    match condition.message with
    | none | some "" => []
    | some pattern =>
      ["like(" ++ condition.reading (part "message") ++ ", " ++ literal pattern ++ ")"]
where
  oneOf (name : String) (values : List String) : List String :=
    if values = [] then []
    else [condition.reading (part name) ++ " IN (" ++ literalList values ++ ")"]

def commands (condition : StatusCondition) : List String :=
  ["eval " ++ assign condition.indexField (mvfind (part "type") condition.kind),
    whereFound condition.indexField condition.clauses]

def schema (condition : StatusCondition) : Schema :=
  .ofList
    [("status_message", field "message"), ("status_reason", field "reason")]
where
  field (name : String) : Rule :=
    (Rule.ofExpression (condition.reading (part name))).inside filterContainer

def filter (condition : StatusCondition) : Filter :=
  ⟨condition.commands, condition.schema⟩

end StatusCondition

/-- Looks for a result of a Tekton task by its name. -/
structure TaskResult where
  name : String
  /-- The field that holds the position of the result. -/
  indexField : String := "tekton_task_result_index"
deriving DecidableEq, Repr

namespace TaskResult

/-- The list that holds one part of every result of a task. -/
def part (name : String) : String :=
  "responseObject.status.taskResults\x7b\x7d." ++ name

/-- Reads the value of the result. -/
def value (result : TaskResult) : String :=
  mvindex (part "value") result.indexField

def commands (result : TaskResult) : List String :=
  ["eval " ++ assign result.indexField (mvfind (part "name") result.name),
    whereFound result.indexField []]

def schema (result : TaskResult) : Schema :=
  .ofList [("tekton_task_result", (Rule.ofExpression result.value).inside filterContainer)]

def filter (result : TaskResult) : Filter :=
  ⟨result.commands, result.schema⟩

end TaskResult

end AuditSearch.Query
