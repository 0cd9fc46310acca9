import AuditSearch.Audit.Search
import AuditSearch.Query.Filter
import AuditSearch.Query.Trace

/-!
# Queries

A `Query` collects what one search over audit records needs. It grows by clauses, and every kind
of clause has its own rule: the API and the predicate are replaced, commands and requested fields
are appended, and the fields of filters are laid over those before them. The registry is only read
when the query is written, so the API may be named before or after the filters.
-/

namespace AuditSearch

open Audit Output Query

structure Query where
  index : String
  /-- Gives the rules of the fields that no clause supplies. -/
  registry : Registry
  api : GroupResource := .any
  predicate : String := ""
  /-- The commands that run right after the search. -/
  commands : List String := []
  /-- The fields that were asked for, in any order and with repeats. -/
  requested : List String := []
  /-- The rules that filters and event expressions supply. -/
  supplied : Schema := .empty
deriving DecidableEq

namespace Query

/-- A part of a query. -/
inductive Clause where
  /-- Searches the records of `api` and uses its rules. -/
  | api (api : GroupResource)
  /-- Narrows the search, in place of any predicate before it. -/
  | predicate (text : String)
  | commands (texts : List String)
  /-- Adds the commands of the filter and makes its fields available. -/
  | filter (filter : Filter)
  | fields (names : List String)
  /-- Computes the field `event` and asks for it. -/
  | event (expression : String)
deriving DecidableEq

/-- The field that says what happened. -/
def eventField : String := "event"

/-- A query that asks for no fields yet. -/
def start (index : String) (registry : Registry) : Query :=
  { index, registry }

def add (query : Query) : Clause → Query
  | .api api => { query with api }
  | .predicate text => { query with predicate := text }
  | .commands texts => { query with commands := query.commands ++ texts }
  | .filter filter => { query with
      commands := query.commands ++ filter.commands
      supplied := query.supplied.overlay filter.schema }
  | .fields names => { query with requested := query.requested ++ names }
  | .event expression => { query with
      requested := query.requested ++ [eventField]
      supplied := query.supplied.insert eventField (.ofExpression expression) }

def addAll (query : Query) (clauses : List Clause) : Query :=
  clauses.foldl add query

/-- The rules in force: those of the registry for the API, under the supplied ones. -/
def schema (query : Query) : Schema :=
  query.registry.effective query.api [query.supplied]

/-- The distinct requested fields, in ascending order. -/
def request (query : Query) : List String :=
  Text.ascending query.requested

/-- The search and the commands after it. -/
def search (query : Query) : String :=
  " | ".intercalate (searchCommand query.index query.api query.predicate :: query.commands)

def render (query : Query) : Except QueryError String :=
  query.schema.query query.search query.request

/-- `render`, with the one event that it emits. -/
def trace (query : Query) : Traced String :=
  match query.render with
  | .ok text => ⟨.ok text, [.rendered text query.request.length]⟩
  | .error e => ⟨.error e, [.ofError e]⟩

@[simp] theorem outcome_trace (query : Query) : query.trace.outcome = query.render := by
  unfold trace
  split <;> simp_all

end Query

end AuditSearch
