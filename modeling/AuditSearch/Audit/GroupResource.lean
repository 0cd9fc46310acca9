import AuditSearch.Expression

/-!
# Kinds of objects in audit records

A `GroupResource` names the API that an audited request was made to. `GroupResource.any` stands
for every API. The order is by group, then by resource.
-/

namespace AuditSearch.Audit

open Expression

structure GroupResource where
  group : String
  resource : String
deriving DecidableEq, Repr

namespace GroupResource

/-- Every API. -/
def any : GroupResource := ⟨"", ""⟩

instance : Inhabited GroupResource := ⟨any⟩

/-- An API with one empty part is still a particular API. -/
def isAny (api : GroupResource) : Bool :=
  api.group.isEmpty && api.resource.isEmpty

/-- What restricts a search to the records of the API. -/
def searchTerms (api : GroupResource) : String :=
  if api.isAny then ""
  else assign (literal "objectRef.apiGroup") (literal api.group) ++ " " ++
    assign (literal "objectRef.resource") (literal api.resource)

/-- The API as it is shown to people. -/
def display (api : GroupResource) : String :=
  if api.isAny then "*" else api.group ++ "/" ++ api.resource

instance : Ord GroupResource :=
  ⟨compareLex (compareOn group) (compareOn resource)⟩

instance : Std.TransOrd GroupResource :=
  inferInstanceAs (Std.TransCmp (compareLex (compareOn group) (compareOn resource)))

instance : Std.LawfulEqOrd GroupResource where
  eq_of_compare {a b} h := by
    have h : ((compare a.group b.group).then (compare a.resource b.resource)) = .eq := h
    rw [Ordering.then_eq_eq] at h
    cases a
    cases b
    simp_all

theorem isAny_iff {api : GroupResource} : api.isAny = true ↔ api = any := by
  cases api
  simp [isAny, any]

end GroupResource

end AuditSearch.Audit
