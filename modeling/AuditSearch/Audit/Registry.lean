import AuditSearch.Audit.GroupResource
import AuditSearch.Output.Schema

/-!
# Registries

A `Registry` gives APIs their schemas. The entry of `GroupResource.any` applies to every API, and
the entry of a particular API is laid over it. Entries are independent cells: an `Edit` touches
the entry of one API only (`get?_apply`).
-/

namespace AuditSearch.Audit

open Output

structure Registry where
  entries : Std.ExtTreeMap GroupResource Schema compare
deriving DecidableEq

/-- A change of the entry of one API. -/
inductive Edit where
  /-- The entry becomes the schema. -/
  | set (api : GroupResource) (schema : Schema)
  /-- The schema is laid over the entry, which is empty if there was none. -/
  | extend (api : GroupResource) (schema : Schema)
deriving DecidableEq

namespace Registry

/-- No entries, not even one for every API. -/
def empty : Registry := ⟨∅⟩

instance : Inhabited Registry := ⟨empty⟩

def get? (registry : Registry) (api : GroupResource) : Option Schema :=
  registry.entries[api]?

def set (registry : Registry) (api : GroupResource) (schema : Schema) : Registry :=
  ⟨registry.entries.insert api schema⟩

def extend (registry : Registry) (api : GroupResource) (schema : Schema) : Registry :=
  registry.set api (((registry.get? api).getD .empty).overlay schema)

def apply (registry : Registry) : Edit → Registry
  | .set api schema => registry.set api schema
  | .extend api schema => registry.extend api schema

def applyAll (registry : Registry) (edits : List Edit) : Registry :=
  edits.foldl apply registry

/-- The registry whose one entry applies to every API. -/
def ofSchema (schema : Schema) : Registry :=
  empty.set .any schema

/-- The particular APIs with an entry, in ascending order. -/
def apis (registry : Registry) : List GroupResource :=
  registry.entries.keys.filter (!·.isAny)

/-- The rules that apply to every API. -/
def common (registry : Registry) : Schema :=
  (registry.get? .any).getD .empty

/-- The rules for `api`: those for every API, under those of `api` itself, under `layers` from
first to last. -/
def effective (registry : Registry) (api : GroupResource) (layers : List Schema) : Schema :=
  let base := if api.isAny then registry.common
    else registry.common.overlay ((registry.get? api).getD .empty)
  layers.foldl .overlay base

theorem ext_get? {r s : Registry} (h : ∀ api, r.get? api = s.get? api) : r = s := by
  cases r
  cases s
  exact congrArg mk (Std.ExtTreeMap.ext_getElem? h)

@[simp] theorem get?_empty (api : GroupResource) : empty.get? api = none := by
  simp [empty, get?]

@[simp] theorem get?_set (registry : Registry) (api other : GroupResource) (schema : Schema) :
    (registry.set api schema).get? other =
      if api = other then some schema else registry.get? other := by
  simp [set, get?, Std.ExtTreeMap.getElem?_insert]

@[simp] theorem get?_extend (registry : Registry) (api other : GroupResource) (schema : Schema) :
    (registry.extend api schema).get? other =
      if api = other then some (((registry.get? api).getD .empty).overlay schema)
      else registry.get? other := by
  simp [extend]

end Registry

namespace Edit

/-- The API whose entry changes. -/
def api : Edit → GroupResource
  | set api _ => api
  | extend api _ => api

/-- The entry after the change, from the entry before it. -/
def entry (edit : Edit) (before : Option Schema) : Schema :=
  match edit with
  | set _ schema => schema
  | extend _ schema => (before.getD .empty).overlay schema

end Edit

namespace Registry

@[simp] theorem get?_apply (registry : Registry) (edit : Edit) (other : GroupResource) :
    (registry.apply edit).get? other =
      if edit.api = other then some (edit.entry (registry.get? other))
      else registry.get? other := by
  cases edit with
  | set api schema =>
    by_cases h : api = other
    · simp [apply, Edit.api, Edit.entry, h]
    · simp [apply, Edit.api, h]
  | extend api schema =>
    by_cases h : api = other
    · simp [apply, Edit.api, Edit.entry, h]
    · simp [apply, Edit.api, h]

end Registry

end AuditSearch.Audit
