import AuditSearch.Audit.Registry
import AuditSearch.Output.Plan
import AuditSearch.Text.Blank

/-!
# Searches over an index of audit records

The command that every query starts with, and a query written straight from a registry.
-/

namespace AuditSearch.Audit

open Expression Output

/-- The leading command: the index, then the terms of the API and the predicate where there are
any. White space is not kept at the ends. -/
def searchCommand (index : String) (api : GroupResource) (predicate : String) : String :=
  let start := "search " ++ assign "index" (literal index) ++ " log_type=audit"
  let terms := [api.searchTerms, predicate].filter (· ≠ "")
  Text.trim (" ".intercalate (start :: terms))

/-- A query for the fields of `request`, in the rules of `registry` for `api` under `layers`. -/
def Registry.query (registry : Registry) (index : String) (api : GroupResource)
    (predicate : String) (request : List String) (layers : List Schema) :
    Except QueryError String :=
  (registry.effective api layers).query (searchCommand index api predicate) request

end AuditSearch.Audit
