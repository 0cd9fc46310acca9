import AuditSearch.Output.Schema
import AuditSearch.Text.Ascending

/-!
# Plans

`Schema.plan` turns a request for output fields into a `Plan`: which fields of the record are cut
to their first value, which assignments are made, and which fields are kept at the end. The
request is read once, from left to right, by `Pass.add`; a name that was already seen adds
nothing, and the first name without a rule ends the reading.
-/

namespace AuditSearch.Output

open Expression

/-- Why a query cannot be written. -/
inductive QueryError where
  /-- A requested field has no rule. -/
  | unknownField (name : String)
deriving DecidableEq, Repr

def QueryError.message : QueryError → String
  | .unknownField name => "no field specification for: \"" ++ name ++ "\""

/-- What a request comes to. -/
structure Plan where
  /-- The fields of the record that are cut to their first value, in order of first use. -/
  firstValues : List String := []
  /-- The assignments of plain fields, in order of the request, and after them one object for each
  container, in order of first encounter. -/
  assignments : List String := []
  /-- The fields to keep. -/
  selection : List String := []
deriving DecidableEq, Repr

namespace Plan

/-- The command that drops the metadata which the search service adds to every result. -/
def dropMetadata : String := "fields - _*"

/-- The commands of a plan. The first two are left out when they have nothing to do. -/
def commands (plan : Plan) : List String :=
  (if plan.firstValues = [] then [] else [keepFirstValues plan.firstValues]) ++
  (if plan.assignments = [] then [] else ["eval " ++ commaList plan.assignments]) ++
  ["fields " ++ commaList plan.selection, dropMetadata]

/-- The commands as text, each after a bar. -/
def stages (plan : Plan) : String :=
  String.join (plan.commands.map ("|" ++ ·))

end Plan

/-- What is known after part of a request has been read. -/
structure Pass where
  seen : List String := []
  firstValues : List String := []
  /-- The fields at the top level, with their rules. -/
  plain : List (String × Rule) := []
  /-- The containers met so far, each with the fields in it and their rules. -/
  objects : List (String × List (String × Rule)) := []
deriving DecidableEq, Repr

namespace Pass

/-- Appends `name` unless the list holds it. -/
def appendNew (names : List String) (name : String) : List String :=
  if name ∈ names then names else names ++ [name]

/-- Adds a member to the object `container`, which is opened at the end if it is new. -/
def addMember (objects : List (String × List (String × Rule))) (container : String)
    (member : String × Rule) : List (String × List (String × Rule)) :=
  match objects with
  | [] => [(container, [member])]
  | (name, members) :: rest =>
    if name = container then (name, members ++ [member]) :: rest
    else (name, members) :: addMember rest container member

/-- Reads a request for `name`, whose rule is `rule`. -/
def add (pass : Pass) (name : String) (rule : Rule) : Pass :=
  let read : Pass := { pass with
    seen := pass.seen ++ [name]
    firstValues := (rule.inputs name).foldl appendNew pass.firstValues }
  match rule.container with
  | none => { read with plain := read.plain ++ [(name, rule)] }
  | some container => { read with objects := addMember read.objects container (name, rule) }

/-- Reads the next name of a request. -/
def next (schema : Schema) (pass : Pass) (name : String) : Except QueryError Pass :=
  if name ∈ pass.seen then .ok pass
  else match schema.get? name with
    | none => .error (.unknownField name)
    | some rule => .ok (pass.add name rule)

/-- The assignment of a field at the top level. A field that is copied needs none. -/
def plainAssignment? (name : String) (rule : Rule) : Option String :=
  rule.value?.map (assign name)

/-- The assignment of an object with its fields. -/
def objectAssignment (container : String) (members : List (String × Rule)) : String :=
  assign container (jsonObject (members.map fun (name, rule) => (name, rule.memberValue name)))

/-- The plan of everything that was read. -/
def plan (pass : Pass) : Plan where
  firstValues := pass.firstValues
  assignments :=
    (pass.plain.filterMap fun (name, rule) => plainAssignment? name rule) ++
    pass.objects.map fun (container, members) => objectAssignment container members
  selection := Text.ascending (pass.plain.map Prod.fst ++ pass.objects.map Prod.fst)

end Pass

namespace Schema

/-- The plan of a request, or the first requested name without a rule. -/
def plan (schema : Schema) (request : List String) : Except QueryError Plan :=
  Pass.plan <$> request.foldlM (Pass.next schema) {}

/-- The text that starts with `search` and gives the requested fields. -/
def query (schema : Schema) (search : String) (request : List String) :
    Except QueryError String :=
  (fun plan => search ++ plan.stages) <$> schema.plan request

end Schema

end AuditSearch.Output
