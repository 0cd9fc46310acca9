import AuditSearch.Proofs.Output.Separators
import AuditSearch.Proofs.Query.Traces

/-!
# Cutting a query into its commands

The commands of a query are found again by cutting its text at the bars (`splitAt_render`), if
nothing that was put into the query holds a bar. The bars between the search and the commands
after it have spaces at their sides, which stay with the pieces (`spaced`); the bars before the
commands of the plan have none.
-/

namespace AuditSearch.Query

open Audit Output

/-! ## Bars with spaces and without -/

/-- The pieces between bars with spaces at their sides: each text but the first has a space in
front of it, and each but the last has one after it. -/
def spaced (texts : List String) : List String :=
  texts.mapIdx fun i text =>
    (if i = 0 then "" else " ") ++ text ++ (if i + 1 = texts.length then "" else " ")

/-- The induction is on the texts after the first, which has `lead` in front of it. -/
theorem intercalate_mapIdx (lead first : String) (rest : List String) :
    "|".intercalate ((first :: rest).mapIdx fun i text =>
      (if i = 0 then lead else " ") ++ text ++
        (if i + 1 = (first :: rest).length then "" else " ")) =
      lead ++ " | ".intercalate (first :: rest) := by
  induction rest generalizing lead first with
  | nil => simp
  | cons next rest ih =>
    have hrest : ((next :: rest).mapIdx fun i text =>
        (if i + 1 = 0 then lead else " ") ++ text ++
          (if i + 1 + 1 = (first :: next :: rest).length then "" else " ")) =
        (next :: rest).mapIdx fun i text =>
          (if i = 0 then " " else " ") ++ text ++
            (if i + 1 = (next :: rest).length then "" else " ") := by
      simp only [List.length_cons, Nat.add_right_cancel_iff, ite_self, Nat.succ_ne_zero, if_false]
    have hne : ((next :: rest).mapIdx fun i text =>
        (if i = 0 then " " else " ") ++ text ++
          (if i + 1 = (next :: rest).length then "" else " ")) ≠ [] := by
      simp only [ne_eq, List.mapIdx_eq_nil_iff, reduceCtorEq, not_false_eq_true]
    have hfirst : (if 0 + 1 = (first :: next :: rest).length then "" else " ") = " " := by
      simp
    have hbar : " " ++ ("|" ++ " ") = " | " := by decide
    rw [List.mapIdx_cons, hrest, String.intercalate_cons_of_ne_nil hne, ih, if_pos rfl, hfirst,
      String.intercalate_cons_cons, ← hbar]
    simp only [String.append_assoc]

theorem intercalate_spaced (first : String) (rest : List String) :
    "|".intercalate (spaced (first :: rest)) = " | ".intercalate (first :: rest) :=
  (intercalate_mapIdx "" first rest).trans String.empty_append

theorem length_spaced (texts : List String) : (spaced texts).length = texts.length :=
  List.length_mapIdx

theorem lacks_spaced {texts : List String} (h : ∀ text ∈ texts, Text.Lacks '|' text) :
    ∀ piece ∈ spaced texts, Text.Lacks '|' piece := by
  intro piece hpiece
  obtain ⟨i, hi, rfl⟩ := List.mem_mapIdx.mp hpiece
  have hlead : Text.Lacks '|' (if i = 0 then "" else " ") := by split_ifs <;> decide
  have htrail : Text.Lacks '|' (if i + 1 = texts.length then "" else " ") := by
    split_ifs <;> decide
  exact (hlead.append (h texts[i] (List.getElem_mem hi))).append htrail

/-! ## What is put into a query -/

/-- The character occurs nowhere in the query, nor in the rules of the fields that it asks for. -/
structure Lacks (sep : Char) (query : Query) : Prop where
  index : Text.Lacks sep query.index
  group : Text.Lacks sep query.api.group
  resource : Text.Lacks sep query.api.resource
  predicate : Text.Lacks sep query.predicate
  commands : ∀ command ∈ query.commands, Text.Lacks sep command
  names : ∀ name ∈ query.requested, Text.Lacks sep name
  rules : ∀ name ∈ query.requested, ∀ rule ∈ query.schema.get? name, rule.Lacks sep

section
variable {sep : Char} {query : Query}

theorem lacks_searchCommand (hsep : sep ∈ Expression.separators) {index : String}
    {api : GroupResource} {predicate : String} (hindex : Text.Lacks sep index)
    (hgroup : Text.Lacks sep api.group) (hresource : Text.Lacks sep api.resource)
    (hpredicate : Text.Lacks sep predicate) :
    Text.Lacks sep (searchCommand index api predicate) := by
  have hspace : Text.Lacks sep " " := Expression.lacks_fragment hsep
  have hstart : Text.Lacks sep
      ("search " ++ Expression.assign "index" (Expression.literal index) ++ " log_type=audit") := by
    have hsearch : Text.Lacks sep "search " := Expression.lacks_fragment hsep
    have hname : Text.Lacks sep "index" := Expression.lacks_fragment hsep
    have htype : Text.Lacks sep " log_type=audit" := Expression.lacks_fragment hsep
    have hvalue := Expression.lacks_literal hsep hindex
    exact (hsearch.append (Expression.lacks_assign hsep hname hvalue)).append htype
  have hterms : Text.Lacks sep api.searchTerms := by
    have hgroupName : Text.Lacks sep "objectRef.apiGroup" := Expression.lacks_fragment hsep
    have hresourceName : Text.Lacks sep "objectRef.resource" := Expression.lacks_fragment hsep
    have hgroupTerm := Expression.lacks_assign hsep (Expression.lacks_literal hsep hgroupName)
      (Expression.lacks_literal hsep hgroup)
    have hresourceTerm := Expression.lacks_assign hsep (Expression.lacks_literal hsep hresourceName)
      (Expression.lacks_literal hsep hresource)
    unfold GroupResource.searchTerms
    split_ifs
    · exact List.not_mem_nil
    · exact (hgroupTerm.append hspace).append hresourceTerm
  refine Text.Lacks.trim (hspace.intercalate ?_)
  rw [List.forall_mem_cons]
  refine ⟨hstart, fun term hterm => ?_⟩
  rcases List.mem_pair.mp (List.mem_of_mem_filter hterm) with rfl | rfl
  · exact hterms
  · exact hpredicate

theorem Lacks.search (hsep : sep ∈ Expression.separators) (h : query.Lacks sep) :
    ∀ text ∈ searchCommand query.index query.api query.predicate :: query.commands,
      Text.Lacks sep text := by
  rw [List.forall_mem_cons]
  exact ⟨lacks_searchCommand hsep h.index h.group h.resource h.predicate, h.commands⟩

theorem Lacks.reading (h : query.Lacks sep) :
    (query.schema.reading query.request).Lacks sep where
  names name hname := h.names name (mem_request.mp (Schema.mem_names_reading.mp hname))
  rules name hname := by
    have hrequested := mem_request.mp (Schema.mem_names_reading.mp hname)
    unfold Schema.reading
    cases hrule : query.schema.get? name with
    | none =>
      have hcopy : Rule.copy.Lacks sep := ⟨nofun, nofun, nofun⟩
      simpa only [hrule, Option.getD_none] using hcopy
    | some rule => simpa only [hrule, Option.getD_some] using h.rules name hrequested rule hrule

/-- The plan of a query that can be written, and its text. -/
theorem plan_of_render {text : String} (h : query.render = .ok text) :
    query.schema.plan query.request = .ok (query.schema.reading query.request).plan ∧
      text = query.search ++ (query.schema.reading query.request).plan.stages := by
  rw [render_eq_match] at h
  rw [Schema.plan_eq_match]
  cases hmissing : query.schema.missing? query.request with
  | some name =>
    rw [hmissing] at h
    exact nomatch h
  | none =>
    rw [hmissing] at h
    exact ⟨rfl, (Except.ok.inj h).symm⟩

theorem search_append_stages (query : Query) (plan : Plan) :
    query.search ++ plan.stages =
      (String.singleton '|').intercalate
        (spaced (searchCommand query.index query.api query.predicate :: query.commands) ++
          plan.commands) := by
  have hbar : String.singleton '|' = "|" := rfl
  have hjoin : ∀ (texts : List String), texts ≠ [] →
      "|".intercalate (texts ++ plan.commands) = "|".intercalate texts ++ plan.stages := by
    intro texts hne
    obtain ⟨first, rest, rfl⟩ := List.exists_cons_of_ne_nil hne
    rw [List.cons_append, Text.intercalate_eq_join, Text.intercalate_eq_join, List.map_append,
      String.join_append, Plan.stages, String.append_assoc]
  have hne : spaced (searchCommand query.index query.api query.predicate :: query.commands) ≠ [] := by
    rw [← List.length_pos_iff, length_spaced]
    exact Nat.succ_pos _
  rw [hbar, hjoin _ hne, intercalate_spaced, search]

/-- The field `name` is left at the end: it was asked for and stands at the top level, or it is
the container of a field that was asked for. -/
def Keeps (query : Query) (name : String) : Prop :=
  (name ∈ query.requested ∧
    ∃ rule, query.schema.get? name = some rule ∧ rule.container = none) ∨
  ∃ field ∈ query.requested,
    ∃ rule, query.schema.get? field = some rule ∧ rule.container = some name

theorem mem_selection_iff (hknown : ∀ name ∈ query.request, query.schema.get? name ≠ none)
    (name : String) :
    name ∈ (query.schema.reading query.request).plan.selection ↔ query.Keeps name := by
  have hrule : ∀ field ∈ query.request, ∀ container,
      ((query.schema.reading query.request).rule field).container = container ↔
        ∃ rule, query.schema.get? field = some rule ∧ rule.container = container := by
    intro field hfield container
    obtain ⟨rule, hsome⟩ := Option.ne_none_iff_exists'.mp (hknown field hfield)
    simp only [Schema.reading, hsome, Option.getD_some, Option.some_inj, exists_eq_left']
  have hselection : name ∈ (query.schema.reading query.request).plan.selection ↔
      name ∈ (query.schema.reading query.request).plain ∨
        name ∈ (query.schema.reading query.request).containers :=
    Text.mem_ascending.trans List.mem_append
  rw [hselection, Schema.mem_plain_reading, Schema.mem_containers_reading, Keeps]
  simp only [← mem_request]
  constructor
  · rintro (⟨hname, hplain⟩ | ⟨field, hfield, hcontainer⟩)
    · exact .inl ⟨hname, (hrule name hname none).mp hplain⟩
    · exact .inr ⟨field, hfield, (hrule field hfield _).mp hcontainer⟩
  · rintro (⟨hname, hplain⟩ | ⟨field, hfield, hcontainer⟩)
    · exact .inl ⟨hname, (hrule name hname none).mpr hplain⟩
    · exact .inr ⟨field, hfield, (hrule field hfield _).mpr hcontainer⟩

theorem exists_keeps (hknown : ∀ name ∈ query.request, query.schema.get? name ≠ none)
    (h : query.requested ≠ []) : ∃ name, query.Keeps name := by
  obtain ⟨field, hfield⟩ := List.exists_mem_of_ne_nil _ h
  obtain ⟨rule, hsome⟩ := Option.ne_none_iff_exists'.mp (hknown field (mem_request.mpr hfield))
  cases hcontainer : rule.container with
  | none => exact ⟨field, .inl ⟨hfield, rule, hsome, hcontainer⟩⟩
  | some container => exact ⟨container, .inr ⟨field, hfield, rule, hsome, hcontainer⟩⟩

theorem keepFirstValues_eq (fields : List String) :
    Expression.keepFirstValues fields =
      "eval " ++ ",".intercalate (fields.map fun field =>
        field ++ "=mvindex('" ++ field ++ "', 0)") := by
  have hfield : ∀ field : String,
      Expression.assign field (Expression.mvindex field "0") =
        field ++ "=mvindex('" ++ field ++ "', 0)" := by
    intro field
    rw [← String.toList_inj]
    simp [Expression.assign, Expression.mvindex, Expression.fieldRef]
  unfold Expression.keepFirstValues Expression.commaList
  simp only [hfield]

end

/-- A query that holds no bar of its own is cut at the bars into the search, the commands, and the
commands of its plan, of which the first two may be missing. The fields that are left at the end
are found again by cutting at the commas. -/
theorem splitAt_render {query : Query} {text : String} (hlacks : query.Lacks '|')
    (h : query.render = .ok text) :
    ∃ plan : Plan, query.schema.plan query.request = .ok plan ∧
      Text.splitAt '|' text =
        spaced (searchCommand query.index query.api query.predicate :: query.commands) ++
          ((if plan.firstValues = [] then []
            else ["eval " ++ ",".intercalate (plan.firstValues.map fun field =>
              field ++ "=mvindex('" ++ field ++ "', 0)")]) ++
          (if plan.assignments = [] then [] else ["eval " ++ ",".intercalate plan.assignments]) ++
          ["fields " ++ ",".intercalate plan.selection, "fields - _*"]) ∧
      (Text.splitAt '|' text).length =
        1 + query.commands.length + (if plan.firstValues = [] then 0 else 1) +
          (if plan.assignments = [] then 0 else 1) + 2 ∧
      Text.Ascending plan.selection ∧ (∀ name, name ∈ plan.selection ↔ query.Keeps name) ∧
      (query.requested ≠ [] → (∀ name ∈ plan.selection, Text.Lacks ',' name) →
        Text.splitAt ',' (",".intercalate plan.selection) = plan.selection) := by
  have hsep : '|' ∈ Expression.separators := by decide
  obtain ⟨hplan, htext⟩ := plan_of_render h
  have hknown := Schema.exists_plan_iff.mp ⟨_, hplan⟩
  generalize hreading : (query.schema.reading query.request).plan = plan at hplan htext
  have hmem : ∀ name, name ∈ plan.selection ↔ query.Keeps name := by
    rw [← hreading]
    exact mem_selection_iff hknown
  have hpieces : Text.splitAt '|' text =
      spaced (searchCommand query.index query.api query.predicate :: query.commands) ++
        plan.commands := by
    have hspaced := lacks_spaced (hlacks.search hsep)
    have hcommands : ∀ command ∈ plan.commands, Text.Lacks '|' command := by
      rw [← hreading]
      exact hlacks.reading.commands hsep
    have hne : plan.commands ≠ [] := List.append_ne_nil_of_right_ne_nil _ (List.cons_ne_nil _ _)
    rw [htext, search_append_stages]
    exact Text.splitAt_intercalate (List.append_ne_nil_of_right_ne_nil _ hne)
      (List.forall_mem_append.mpr ⟨hspaced, hcommands⟩)
  refine ⟨plan, hplan, ?_, ?_, ?_, hmem, ?_⟩
  · rw [hpieces, Plan.commands, keepFirstValues_eq]
    rfl
  · rw [hpieces, Plan.commands]
    split_ifs <;> simp [length_spaced] <;> omega
  · rw [← hreading]
    exact Text.ascending_ascending _
  · intro hrequested hcomma
    obtain ⟨name, hkeeps⟩ := exists_keeps hknown hrequested
    exact Text.splitAt_intercalate (List.ne_nil_of_mem ((hmem name).mpr hkeeps)) hcomma

/-- The names and kinds of the first five objects, with two commands after the search. -/
def firstObjects : Query where
  index := "audit"
  registry := .ofSchema (.ofList
    [("name", .ofSources ["objectRef.name", "requestURI"]), ("kind", Rule.copy.inside "properties")])
  predicate := "verb=create"
  commands := ["head 5", "dedup user"]
  requested := ["kind", "name", "kind"]

theorem splitAt_render_firstObjects :
    let text := "search index=\"audit\" log_type=audit verb=create | head 5 | dedup user" ++
      "|eval kind=mvindex('kind', 0),objectRef.name=mvindex('objectRef.name', 0)" ++
      ",requestURI=mvindex('requestURI', 0)" ++
      "|eval name=if(isnull('objectRef.name'),'requestURI','objectRef.name')" ++
      ",properties=json_object(\"kind\",'kind')|fields name,properties|fields - _*"
    firstObjects.Lacks '|' ∧ firstObjects.render = .ok text ∧
    Text.splitAt '|' text =
      ["search index=\"audit\" log_type=audit verb=create ", " head 5 ", " dedup user",
        "eval kind=mvindex('kind', 0),objectRef.name=mvindex('objectRef.name', 0)" ++
          ",requestURI=mvindex('requestURI', 0)",
        "eval name=if(isnull('objectRef.name'),'requestURI','objectRef.name')" ++
          ",properties=json_object(\"kind\",'kind')",
        "fields name,properties", "fields - _*"] ∧
    Text.splitAt ',' "name,properties" = ["name", "properties"] := by
  intro text
  have hlacks : firstObjects.Lacks '|' :=
    ⟨by decide, by decide, by decide, by decide, by decide, by decide, by decide +kernel⟩
  have hrender : firstObjects.render = .ok text := by decide +kernel
  obtain ⟨plan, hplan, hpieces, -, -, -, hcomma⟩ := splitAt_render hlacks hrender
  have hvalue : firstObjects.schema.plan firstObjects.request = .ok
      { firstValues := ["kind", "objectRef.name", "requestURI"]
        assignments := ["name=if(isnull('objectRef.name'),'requestURI','objectRef.name')",
          "properties=json_object(\"kind\",'kind')"]
        selection := ["name", "properties"] } := by
    decide +kernel
  obtain rfl := Except.ok.inj (hplan.symm.trans hvalue)
  exact ⟨hlacks, hrender, hpieces.trans (by decide +kernel), hcomma (by decide) (by decide)⟩

end AuditSearch.Query
