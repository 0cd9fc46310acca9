import AuditSearch.Proofs.Output.Writes

/-!
# The entries of a registry are independent cells

An edit changes the entry of one API and leaves the others alone. So the entry of an API after any
edits is what the edits of that API make of its entry before them (`get?_applyAll`), and edits of
different APIs may change places (`applyAll_congr`). The entry for every API is a cell like any
other; only the list of the particular APIs leaves it out. That list is in strictly ascending order
of the bytes of the groups and then of the resources (`ascending_apis`).
-/

namespace AuditSearch.Audit

open Output

namespace Edit

/-- The edits of the entry of `api`, in order. -/
def ofApi (api : GroupResource) (edits : List Edit) : List Edit :=
  edits.filter fun edit => edit.api = api

/-- What edits of one API make of its entry. -/
def entryAfter (before : Option Schema) (edits : List Edit) : Option Schema :=
  edits.foldl (fun entry edit => some (edit.entry entry)) before

theorem ofApi_cons (api : GroupResource) (edit : Edit) (rest : List Edit) :
    ofApi api (edit :: rest) = if edit.api = api then edit :: ofApi api rest else ofApi api rest := by
  simp only [ofApi, List.filter_cons, decide_eq_true_eq]

theorem ofApi_eq_nil_iff {api : GroupResource} {edits : List Edit} :
    ofApi api edits = [] ↔ ∀ edit ∈ edits, edit.api ≠ api := by
  simp [ofApi, List.filter_eq_nil_iff]

/-- Edits leave an entry behind wherever there are any. -/
theorem isSome_entryAfter {before : Option Schema} {edits : List Edit} :
    (entryAfter before edits).isSome ↔ before.isSome ∨ edits ≠ [] := by
  induction edits generalizing before with
  | nil => simp [entryAfter]
  | cons edit rest ih =>
    have hrest : entryAfter before (edit :: rest) = entryAfter (some (edit.entry before)) rest := rfl
    simp [hrest, ih]

/-- An extended entry has the rules of the schema, and its own for the names that are left out. -/
theorem get?_entry_extend (api : GroupResource) (schema : Schema) (before : Option Schema)
    (name : String) : ((extend api schema).entry before).get? name =
      (schema.get? name).or (before.bind fun entry => entry.get? name) := by
  cases before with
  | none => simp [entry]
  | some schema => simp [entry]

end Edit

/-- The bytes of groups are compared first. -/
theorem GroupResource.compare_eq_lt_iff {a b : GroupResource} :
    compare a b = .lt ↔ Text.bytes a.group < Text.bytes b.group ∨
      a.group = b.group ∧ Text.bytes a.resource < Text.bytes b.resource := by
  have hcompare : compare a b =
      (compare a.group b.group).then (compare a.resource b.resource) := rfl
  rw [hcompare, Ordering.then_eq_lt, Text.compare_eq_lt, Text.compare_eq_lt, Text.bytes_lt_bytes,
    Text.bytes_lt_bytes, Std.LawfulEqOrd.compare_eq_iff_eq]

namespace Registry

variable {registry : Registry} {edits others : List Edit}

/-! ## One entry after any edits -/

theorem applyAll_cons (edit : Edit) (rest : List Edit) :
    registry.applyAll (edit :: rest) = (registry.apply edit).applyAll rest := rfl

theorem applyAll_append (more : List Edit) :
    registry.applyAll (edits ++ more) = (registry.applyAll edits).applyAll more :=
  List.foldl_append

/-- Only the edits of an API have an effect on its entry. -/
theorem get?_applyAll (registry : Registry) (edits : List Edit) (api : GroupResource) :
    (registry.applyAll edits).get? api =
      Edit.entryAfter (registry.get? api) (Edit.ofApi api edits) := by
  induction edits generalizing registry with
  | nil => rfl
  | cons edit rest ih =>
    rw [applyAll_cons, ih, get?_apply, Edit.ofApi_cons]
    split_ifs with h
    · rfl
    · rfl

theorem get?_applyAll_of_ne {api : GroupResource} (h : ∀ edit ∈ edits, edit.api ≠ api) :
    (registry.applyAll edits).get? api = registry.get? api := by
  rw [get?_applyAll, Edit.ofApi_eq_nil_iff.mpr h]
  rfl

theorem isSome_get?_applyAll {api : GroupResource} :
    ((registry.applyAll edits).get? api).isSome ↔
      (registry.get? api).isSome ∨ ∃ edit ∈ edits, edit.api = api := by
  rw [get?_applyAll, Edit.isSome_entryAfter, ne_eq, Edit.ofApi_eq_nil_iff]
  simp only [ne_eq, not_forall, not_not, exists_prop]

/-- How the edits of different APIs stand among each other does not matter. -/
theorem applyAll_congr (h : ∀ api, Edit.ofApi api edits = Edit.ofApi api others) :
    registry.applyAll edits = registry.applyAll others := by
  apply ext_get?
  intro api
  rw [get?_applyAll, get?_applyAll, h]

theorem apply_comm {edit other : Edit} (h : edit.api ≠ other.api) :
    (registry.apply edit).apply other = (registry.apply other).apply edit := by
  apply ext_get?
  intro api
  simp only [get?_apply]
  split_ifs with hother hedit
  · exact absurd (hedit.trans hother.symm) h
  · rfl
  · rfl
  · rfl

theorem extend_extend (api : GroupResource) (lower upper : Schema) :
    (registry.extend api lower).extend api upper = registry.extend api (lower.overlay upper) := by
  apply ext_get?
  intro other
  simp only [get?_extend]
  split_ifs with h
  · simp [Schema.overlay_assoc]
  · rfl

/-! ## The particular APIs -/

/-- The APIs stand in strictly ascending order of the bytes of their groups, and those of one group
in that of their resources. -/
def AscendingApis (apis : List GroupResource) : Prop :=
  apis.Pairwise fun a b => Text.bytes a.group < Text.bytes b.group ∨
    a.group = b.group ∧ Text.bytes a.resource < Text.bytes b.resource

theorem ascending_apis (registry : Registry) : AscendingApis registry.apis := by
  have hkeys : registry.entries.keys.Pairwise fun a b => compare a b = .lt :=
    Std.ExtTreeMap.ordered_keys
  exact (hkeys.filter _).imp GroupResource.compare_eq_lt_iff.mp

theorem mem_apis {api : GroupResource} :
    api ∈ registry.apis ↔ (api.group ≠ "" ∨ api.resource ≠ "") ∧ (registry.get? api).isSome := by
  have hany : api.isAny = false ↔ api.group ≠ "" ∨ api.resource ≠ "" := by
    simp [GroupResource.isAny, ← not_and_or]
  rw [apis, List.mem_filter, Std.ExtTreeMap.mem_keys, Bool.not_eq_true', hany, and_comm, get?]
  simp

/-! ## Histories -/

/-- What can be seen of the registry `after` that `edits` make of `before`. -/
structure Cells (before after : Registry) (edits : List Edit) : Prop where
  entry : ∀ api, after.get? api = Edit.entryAfter (before.get? api) (Edit.ofApi api edits)
  untouched : ∀ api, (∀ edit ∈ edits, edit.api ≠ api) → after.get? api = before.get? api
  present : ∀ api, (after.get? api).isSome ↔
    (before.get? api).isSome ∨ ∃ edit ∈ edits, edit.api = api
  ascending : AscendingApis after.apis
  /-- One part of a particular API may be empty. -/
  apis : ∀ api, api ∈ after.apis ↔
    (api.group ≠ "" ∨ api.resource ≠ "") ∧ (after.get? api).isSome

/-- After any edits every entry is what the edits of its own API make of it, so edits of different
APIs may change places, and two extensions of one entry in a row are one. Nothing but the entries
tells two registries apart. -/
theorem cells_applyAll :
    (∀ registry edits, Cells registry (registry.applyAll edits) edits) ∧
    (∀ api schema before, (Edit.set api schema).entry before = schema ∧
      ∀ name, ((Edit.extend api schema).entry before).get? name =
        (schema.get? name).or (before.bind fun entry => entry.get? name)) ∧
    (∀ (registry : Registry) edits others,
      (∀ api, Edit.ofApi api edits = Edit.ofApi api others) →
        registry.applyAll edits = registry.applyAll others) ∧
    (∀ (registry : Registry) edits edit other more, edit.api ≠ other.api →
      registry.applyAll (edits ++ edit :: other :: more) =
        registry.applyAll (edits ++ other :: edit :: more)) ∧
    (∀ (registry : Registry) edits api lower upper more,
      registry.applyAll (edits ++ .extend api lower :: .extend api upper :: more) =
        registry.applyAll (edits ++ .extend api (lower.overlay upper) :: more)) ∧
    ∀ registry other : Registry, registry = other ↔ ∀ api, registry.get? api = other.get? api := by
  refine ⟨?_, ?_, fun _ _ _ h => applyAll_congr h, ?_, ?_, ?_⟩
  · intro registry edits
    exact {
      entry := get?_applyAll registry edits
      untouched := fun _ h => get?_applyAll_of_ne h
      present := fun _ => isSome_get?_applyAll
      ascending := ascending_apis _
      apis := fun _ => mem_apis }
  · intro api schema before
    exact ⟨rfl, Edit.get?_entry_extend api schema before⟩
  · intro registry edits edit other more h
    simp only [applyAll_append, applyAll_cons, apply_comm h]
  · intro registry edits api lower upper more
    simp only [applyAll_append, applyAll_cons, apply, extend_extend]
  · intro registry other
    constructor
    · rintro rfl api
      rfl
    · exact ext_get?

/-- An API without a group has an entry of its own beside the one for every API. -/
theorem cells_applyAll_pods :
    let pods : GroupResource := ⟨"", "pods"⟩
    let name : Schema := .ofList [("name", .ofSources ["objectRef.name"])]
    let verb : Schema := .ofList [("verb", .copy)]
    let edits : List Edit := [.extend .any verb, .set pods name, .extend pods verb]
    let others : List Edit := [.set pods name, .extend .any verb, .extend pods verb]
    (∀ api, Edit.ofApi api edits = Edit.ofApi api others) ∧
    Registry.empty.applyAll edits = Registry.empty.applyAll others ∧
    pods ∈ (Registry.empty.applyAll edits).apis ∧ .any ∉ (Registry.empty.applyAll edits).apis ∧
    (Registry.empty.applyAll edits).get? pods = some (name.overlay verb) ∧
    (Registry.empty.applyAll edits).get? .any = some (Schema.empty.overlay verb) := by
  intro pods name verb edits others
  obtain ⟨hcells, -, hcongr, -, -, -⟩ := cells_applyAll
  have hparts : ∀ api, Edit.ofApi api edits = Edit.ofApi api others := by
    intro api
    by_cases h : GroupResource.any = api
    · subst h
      rfl
    · simp [edits, others, Edit.ofApi_cons, Edit.api, h]
  have hpods := (hcells Registry.empty edits).entry pods
  have hany := (hcells Registry.empty edits).entry .any
  refine ⟨hparts, hcongr _ _ _ hparts, ?_, ?_, hpods, hany⟩
  · rw [(hcells _ _).apis, hpods]
    exact ⟨.inr (by decide), rfl⟩
  · rw [(hcells _ _).apis]
    rintro ⟨h | h, -⟩ <;> exact h rfl

end Registry

end AuditSearch.Audit
