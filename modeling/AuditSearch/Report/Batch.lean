import AuditSearch.Journey.Catalog

/-!
# Batches

Writing several entries of the catalog and printing them together.
-/

namespace AuditSearch.Report

open Audit Journey Query

/-- The printed queries of `entries`. Nothing is printed if one of them cannot be written. -/
def batch (entries : List Entry) (index : String) (registry : Registry) (layout : Layout) :
    Traced String := do
  let queries ← describeAll entries index registry
  Traced.emit (.renderedAll queries.length index layout)
  return layout.print queries

end AuditSearch.Report
