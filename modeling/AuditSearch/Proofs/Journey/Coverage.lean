import AuditSearch.Proofs.Query.Outcome
import AuditSearch.Shell.Session

/-!
# The catalog is complete in every configuration

A registry covers a schema if its entry for every API knows the names of the schema. Edits that do
not replace this entry keep what is covered, whatever rules they bring (`Covers.apply`), so no
history of such edits takes a name away (`Covers.applyAll`). Each field that an entry of the
catalog asks for has a built-in rule or is supplied by the entry itself.
-/

namespace AuditSearch.Audit

open Output

/-- The edit leaves the entry for every API in place or lays rules over it. -/
def Edit.KeepsCommon : Edit → Prop
  | .set api _ => api ≠ .any
  | .extend _ _ => True

namespace Registry

/-- The names of `schema` have rules for every API. -/
def Covers (registry : Registry) (schema : Schema) : Prop :=
  ∀ name, schema.get? name ≠ none → registry.common.get? name ≠ none

theorem common_apply_of_ne {registry : Registry} {edit : Edit} (h : edit.api ≠ .any) :
    (registry.apply edit).common = registry.common := by
  rw [common, get?_apply, if_neg h, common]

theorem common_apply_extend (registry : Registry) (schema : Schema) :
    (registry.apply (.extend .any schema)).common = registry.common.overlay schema := by
  rw [common, get?_apply, Edit.api, if_pos rfl]
  rfl

theorem covers_ofSchema (schema : Schema) : (ofSchema schema).Covers schema := by
  intro name h
  rwa [common, ofSchema, get?_set, if_pos rfl]

variable {registry : Registry} {schema : Schema}

theorem Covers.apply (h : registry.Covers schema) {edit : Edit} (hedit : edit.KeepsCommon) :
    (registry.apply edit).Covers schema := by
  intro name hname
  by_cases hapi : edit.api = .any
  · cases edit with
    | set api rules => exact absurd hapi hedit
    | extend api rules =>
      change api = .any at hapi
      subst hapi
      rw [common_apply_extend, Schema.get?_overlay]
      cases rules.get? name with
      | some rule => exact Option.some_ne_none rule
      | none => exact h name hname
  · rw [common_apply_of_ne hapi]
    exact h name hname

theorem Covers.applyAll (h : registry.Covers schema) {edits : List Edit}
    (hedits : ∀ edit ∈ edits, edit.KeepsCommon) : (registry.applyAll edits).Covers schema := by
  induction edits generalizing registry with
  | nil => exact h
  | cons edit rest ih =>
    have hedit := hedits edit List.mem_cons_self
    have hrest : ∀ edit ∈ rest, edit.KeepsCommon :=
      fun edit hmem => hedits edit (List.mem_cons_of_mem _ hmem)
    exact ih (h.apply hedit) hrest

end Registry

end AuditSearch.Audit

namespace AuditSearch.Journey

open Audit Output Query Report

/-! ## What the catalog asks for -/

theorem covers_registry : registry.Covers schema := by
  refine (Registry.covers_ofSchema schema).applyAll ?_
  simp [Edit.KeepsCommon, applications, components, releases, appStudio, GroupResource.any]

theorem common_known : ∀ name ∈ commonFields, schema.get? name ≠ none := by
  simp only [schema, get?_ofList_ne_none_iff]
  decide

/-- A field that an entry asks for is built in or supplied by a clause of the entry. -/
theorem asked_known : ∀ entry ∈ catalog, ∀ clause ∈ entry.clauses, ∀ name ∈ clause.asked,
    schema.get? name ≠ none ∨ ∃ other ∈ entry.clauses, other.supplied? name ≠ none := by
  simp only [schema, get?_ofList_ne_none_iff]
  decide

theorem query_eq_run (entry : Entry) (index : String) (registry : Registry) :
    entry.query index registry = (Start.common registry).run index entry.clauses := rfl

theorem outcome_describe (entry : Entry) (index : String) (registry : Registry) :
    (entry.describe index registry).outcome =
      Titled.mk entry.title <$> entry.render index registry := by
  have htrace : (entry.query index registry).trace.outcome = entry.render index registry :=
    outcome_trace _
  unfold Entry.describe
  rw [map_eq_pure_bind]
  cases hrender : entry.render index registry with
  | error error =>
    rw [Traced.bind_of_error (htrace.trans hrender)]
    rfl
  | ok text =>
    rw [Traced.bind_of_ok (htrace.trans hrender)]
    rfl

theorem describeAll_cons (entry : Entry) (rest : List Entry) (index : String)
    (registry : Registry) :
    describeAll (entry :: rest) index registry = do
      let titled ← entry.describe index registry
      let queries ← describeAll rest index registry
      return titled :: queries :=
  List.mapM_cons

section
variable {registry : Registry}

theorem rule?_ne_none (h : registry.Covers schema) (api : GroupResource) {name : String}
    (hname : schema.get? name ≠ none) : registry.rule? name api ≠ none := by
  have hcommon := h name hname
  rw [Registry.get?_common] at hcommon
  unfold Registry.rule?
  rw [ne_eq, Option.or_eq_none_iff]
  exact fun hnone => hcommon hnone.2

theorem exists_render (h : registry.Covers schema) {entry : Entry} (hentry : entry ∈ catalog)
    (index : String) : ∃ text, entry.render index registry = .ok text := by
  unfold Entry.render
  rw [query_eq_run, exists_render_iff]
  intro name hname
  rw [Start.requested_run, List.mem_append, List.mem_flatMap] at hname
  rw [get?_schema_ne_none_iff]
  rcases hname with hcommon | ⟨clause, hclause, hasked⟩
  · exact Or.inr (rule?_ne_none h _ (common_known name hcommon))
  · rcases asked_known entry hentry clause hclause name hasked with hknown | hsupplied
    · exact Or.inr (rule?_ne_none h _ hknown)
    · exact Or.inl hsupplied

theorem exists_describe (h : registry.Covers schema) {entry : Entry} (hentry : entry ∈ catalog)
    (index : String) : ∃ titled, (entry.describe index registry).outcome = .ok titled := by
  obtain ⟨text, htext⟩ := exists_render h hentry index
  refine ⟨⟨entry.title, text⟩, ?_⟩
  rw [outcome_describe, htext]
  rfl

theorem exists_describeAll (h : registry.Covers schema) {entries : List Entry}
    (hentries : entries ⊆ catalog) (index : String) :
    ∃ queries, (describeAll entries index registry).outcome = .ok queries := by
  induction entries with
  | nil => exact ⟨[], rfl⟩
  | cons entry rest ih =>
    rw [List.cons_subset] at hentries
    obtain ⟨titled, htitled⟩ := exists_describe h hentries.1 index
    obtain ⟨queries, hqueries⟩ := ih hentries.2
    refine ⟨titled :: queries, ?_⟩
    rw [describeAll_cons, Traced.bind_of_ok htitled, Traced.bind_of_ok hqueries]
    rfl

theorem exists_batch (h : registry.Covers schema) {entries : List Entry}
    (hentries : entries ⊆ catalog) (index : String) (layout : Layout) :
    ∃ text, (batch entries index registry layout).outcome = .ok text := by
  obtain ⟨queries, hqueries⟩ := exists_describeAll h hentries index
  refine ⟨layout.print queries, ?_⟩
  unfold batch
  rw [Traced.bind_of_ok hqueries]
  rfl

end

/-! ## Configurations -/

theorem covers_settings (settings : Settings) : settings.registry.Covers schema := by
  unfold Settings.registry
  split_ifs
  · exact covers_registry
  · have hkeeps : (Edit.extend .any settings.fields).KeepsCommon := trivial
    exact covers_registry.apply hkeeps

theorem select_subset (names : List String) : select names ⊆ catalog :=
  List.filter_subset_self _

theorem selected_subset (settings : Settings) : settings.selected ⊆ catalog := by
  unfold Settings.selected
  cases settings.queries? with
  | none => exact List.Subset.refl catalog
  | some names => exact select_subset names

theorem choose_subset {settings : Settings} {names : List String} {entries : List Entry}
    (h : Shell.choose settings names = .ok entries) : entries ⊆ catalog := by
  unfold Shell.choose at h
  split at h
  · cases h
    exact selected_subset settings
  · split at h
    · cases h
    · cases h
      exact select_subset _

theorem choose_ne_query (settings : Settings) (names : List String) (error : QueryError) :
    Shell.choose settings names ≠ .error (.query error) := by
  unfold Shell.choose
  split
  · exact nofun
  · split <;> exact nofun

theorem printOutput_ne_query (invocation : Shell.Invocation) (settings : Settings)
    (error : QueryError) : Shell.printOutput invocation settings ≠ .error (.query error) := by
  unfold Shell.printOutput
  cases hchoose : Shell.choose settings invocation.queries with
  | error failure =>
    intro h
    have hfailure : (Except.error failure : Except Shell.Failure String) =
        .error (.query error) := h
    rw [Except.error.inj hfailure] at hchoose
    exact choose_ne_query settings invocation.queries error hchoose
  | ok entries =>
    obtain ⟨text, htext⟩ := exists_batch (covers_settings settings) (choose_subset hchoose)
      (invocation.index?.getD settings.index)
      (if invocation.machine then .machine else settings.layout)
    intro h
    have hbatch := congrArg (Except.mapError Shell.Failure.query) htext
    exact nomatch hbatch.symm.trans h

theorem output_ne_query (invocation : Shell.Invocation) (colour : Bool)
    (loaded : Except Settings.LoadError Settings) (error : QueryError) :
    Shell.output invocation colour loaded ≠ .error (.query error) := by
  unfold Shell.output
  cases loaded with
  | error failure => exact nofun
  | ok settings =>
    cases hcommand : invocation.command with
    | list => exact nofun
    | print => exact printOutput_ne_query invocation settings error

/-- Every entry of the catalog can be written, by itself and together with any others. -/
def Complete (registry : Registry) : Prop :=
  ∀ index : String,
    (∀ entry ∈ catalog, ∃ text, entry.render index registry = .ok text) ∧
    ∀ entries : List Entry, entries ⊆ catalog →
      ∃ queries, (describeAll entries index registry).outcome = .ok queries

theorem complete_of_covers {registry : Registry} (h : registry.Covers schema) :
    Complete registry := by
  intro index
  exact ⟨fun _ hentry => exists_render h hentry index,
    fun _ hentries => exists_describeAll h hentries index⟩

/-- The catalog is complete after every history of edits that keep the entry for every API, and in
particular for all settings, so no run of the program ends with a query that cannot be written. -/
theorem complete_applyAll :
    (∀ edits : List Edit, (∀ edit ∈ edits, edit.KeepsCommon) →
      Complete (Journey.registry.applyAll edits)) ∧
    (∀ settings : Settings, Complete settings.registry) ∧
    ∀ (invocation : Shell.Invocation) (colour : Bool)
      (loaded : Except Settings.LoadError Settings) (error : QueryError),
      Shell.output invocation colour loaded ≠ .error (.query error) := by
  refine ⟨?_, ?_, output_ne_query⟩
  · intro edits hedits
    exact complete_of_covers (covers_registry.applyAll hedits)
  · intro settings
    exact complete_of_covers (covers_settings settings)

/-- One API loses its own rules and another gets new ones, and `event` is copied by default. -/
theorem complete_applyAll_overrides :
    let edits : List Edit :=
      [.set releases .empty, .extend pipelineRuns (.ofList [("name", .copy)]),
        .extend .any (.ofList [("event", .copy)])]
    (∀ edit ∈ edits, edit.KeepsCommon) ∧
      ∃ text, releaseCompleted.render "audit" (Journey.registry.applyAll edits) = .ok text := by
  intro edits
  have hset : releases ≠ .any := by decide
  have hedits : ∀ edit ∈ edits, edit.KeepsCommon := by
    simp [edits, Edit.KeepsCommon, hset]
  have hentry : releaseCompleted ∈ catalog := by simp [catalog]
  exact ⟨hedits, (complete_applyAll.1 edits hedits "audit").1 releaseCompleted hentry⟩

end AuditSearch.Journey
