import AuditSearch.Proofs.Query.Traces
import AuditSearch.Proofs.Text.Trimming

/-!
# White space in searches

A search is trimmed as a whole after its parts have been joined. It begins with a word, and its
scope ends with a word or a quote, so that only the end of the predicate can be lost, and only its
white space (`searchCommand_eq`). Queries whose predicates differ in white space at the end stay
alike whatever clauses are added (`Alike.addAll`), and they are written as the same text.
-/

namespace AuditSearch.Audit

open Expression Text

/-- What a search says without a predicate: the index, and the terms of a particular API. -/
def scope (index : String) (api : GroupResource) : String :=
  "search index=\"" ++ index ++ "\" log_type=audit" ++
    if api.group = "" ∧ api.resource = "" then ""
    else " \"objectRef.apiGroup\"=\"" ++ api.group ++
      "\" \"objectRef.resource\"=\"" ++ api.resource ++ "\""

theorem trimEnd_scope (index : String) (api : GroupResource) :
    trimEnd (scope index api) = scope index api := by
  have htype : trimEnd "\" log_type=audit" = "\" log_type=audit" := by decide
  have hquote : trimEnd "\"" = "\"" := by decide
  unfold scope
  split_ifs
  · rw [String.append_empty, trimEnd_append, htype, if_neg (by decide)]
  · rw [← String.append_assoc, trimEnd_append, hquote, if_neg (by decide)]

theorem searchTerms_eq (api : GroupResource) :
    api.searchTerms = if api.group = "" ∧ api.resource = "" then ""
      else "\"objectRef.apiGroup\"=\"" ++ api.group ++
        "\" \"objectRef.resource\"=\"" ++ api.resource ++ "\"" := by
  have hany : api.isAny = true ↔ api.group = "" ∧ api.resource = "" := by
    simp [GroupResource.isAny]
  unfold GroupResource.searchTerms
  simp only [hany]
  split_ifs
  · rfl
  · apply String.toList_inj.mp
    simp [assign, literal, String.toList_append]

theorem scope_eq (index : String) (api : GroupResource) :
    scope index api = "search " ++ assign "index" (literal index) ++ " log_type=audit" ++
      if api.searchTerms = "" then "" else " " ++ api.searchTerms := by
  rw [searchTerms_eq]
  unfold scope
  apply String.toList_inj.mp
  by_cases h : api.group = "" ∧ api.resource = ""
  · simp [h, assign, literal, String.toList_append]
  · simp [h, assign, literal, String.toList_append]

/-- The parts of a search in front of the trimming. An empty part leaves no gap. -/
theorem intercalate_terms (start terms predicate : String) :
    " ".intercalate (start :: [terms, predicate].filter (· ≠ "")) =
      start ++ (if terms = "" then "" else " " ++ terms) ++
        if predicate = "" then "" else " " ++ predicate := by
  rw [intercalate_eq_join]
  by_cases hterms : terms = "" <;> by_cases hpredicate : predicate = "" <;>
    simp [hterms, hpredicate, String.append_assoc]

/-- A gap in front of a missing predicate would be trimmed too. -/
theorem searchCommand_eq_trimEnd (index : String) (api : GroupResource) (predicate : String) :
    searchCommand index api predicate = trimEnd (scope index api ++ (" " ++ predicate)) := by
  have hfront : ∀ rest : String,
      ∀ c ∈ (scope index api ++ rest).toList.head?, isBlank c = false := by
    intro rest
    have hfirst : isBlank 's' = false := by decide
    have hword : "search index=\"" = String.singleton 's' ++ "earch index=\"" := rfl
    unfold scope
    simp only [hword, String.append_assoc, String.toList_append, String.toList_singleton,
      List.cons_append, List.head?_cons, Option.mem_def, Option.some.injEq]
    rintro c rfl
    exact hfirst
  unfold searchCommand
  dsimp only
  rw [intercalate_terms, ← scope_eq, trim_eq_trimEnd (hfront _)]
  split_ifs with h
  · have hspace : trimEnd " " = "" := by decide
    rw [h, String.append_empty, String.append_empty, trimEnd_append, if_pos hspace]
  · rfl

theorem searchCommand_eq (index : String) (api : GroupResource) (predicate : String) :
    searchCommand index api predicate = scope index api ++
      if trimEnd predicate = "" then "" else " " ++ trimEnd predicate := by
  have hgap : trimEnd (" " ++ predicate) =
      if trimEnd predicate = "" then "" else " " ++ trimEnd predicate :=
    trimEnd_append " " predicate
  rw [searchCommand_eq_trimEnd, trimEnd_append, hgap]
  by_cases h : trimEnd predicate = ""
  · rw [if_pos h, if_pos rfl, trimEnd_scope, String.append_empty]
  · have hne : " " ++ trimEnd predicate ≠ "" := by simp
    rw [if_neg h, if_neg hne]

theorem searchCommand_congr {predicate other : String} (h : trimEnd predicate = trimEnd other)
    (index : String) (api : GroupResource) :
    searchCommand index api predicate = searchCommand index api other := by
  rw [searchCommand_eq, searchCommand_eq, h]

end AuditSearch.Audit

namespace AuditSearch.Query

open Audit Output

/-- The queries are the same but for white space at the end of their predicates. -/
def Alike (query other : Query) : Prop :=
  ∃ predicate, other = { query with predicate } ∧
    Text.trimEnd predicate = Text.trimEnd query.predicate

section
variable {query other : Query}

theorem Alike.add (h : Alike query other) (clause : Clause) :
    Alike (query.add clause) (other.add clause) := by
  obtain ⟨predicate, rfl, htrim⟩ := h
  cases clause with
  | predicate text => exact ⟨text, rfl, rfl⟩
  | api _ => exact ⟨predicate, rfl, htrim⟩
  | commands _ => exact ⟨predicate, rfl, htrim⟩
  | filter _ => exact ⟨predicate, rfl, htrim⟩
  | fields _ => exact ⟨predicate, rfl, htrim⟩
  | event _ => exact ⟨predicate, rfl, htrim⟩

theorem Alike.addAll (h : Alike query other) (clauses : List Clause) :
    Alike (query.addAll clauses) (other.addAll clauses) := by
  induction clauses generalizing query other with
  | nil => exact h
  | cons clause rest ih => exact ih (h.add clause)

theorem Alike.trace_eq (h : Alike query other) : query.trace = other.trace := by
  obtain ⟨predicate, rfl, htrim⟩ := h
  have hsearch : query.search = { query with predicate }.search := by
    unfold search
    rw [searchCommand_congr htrim.symm]
  exact trace_congr hsearch rfl fun _ _ => rfl

end

/-- Of a search only white space at the end of its predicate is lost. So a predicate of nothing but
white space is as good as none, and white space behind a predicate changes nothing in a query,
whatever is added before and after. -/
theorem searchCommand_trims :
    (∀ index api predicate, searchCommand index api predicate = scope index api ++
      if Text.trimEnd predicate = "" then "" else " " ++ Text.trimEnd predicate) ∧
    (∀ text, Text.EndsClear (Text.trimEnd text) ∧
      ∃ blanks, Text.Blank blanks ∧ text = Text.trimEnd text ++ blanks) ∧
    (∀ index api predicate, Text.Blank predicate →
      searchCommand index api predicate = searchCommand index api "") ∧
    ∀ (query : Query) predicate blanks clauses, Text.Blank blanks →
      ((query.add (.predicate (predicate ++ blanks))).addAll clauses).render =
          ((query.add (.predicate predicate)).addAll clauses).render ∧
        ((query.add (.predicate (predicate ++ blanks))).addAll clauses).trace =
          ((query.add (.predicate predicate)).addAll clauses).trace := by
  refine ⟨searchCommand_eq, ?_, ?_, ?_⟩
  · intro text
    exact ⟨Text.endsClear_trimEnd text, Text.exists_blank_end text⟩
  · intro index api predicate h
    have htrim : Text.trimEnd predicate = Text.trimEnd "" :=
      (Text.trimEnd_eq_empty_iff.mpr h).trans rfl
    exact searchCommand_congr htrim index api
  · intro query predicate blanks clauses h
    have halike : Alike (query.add (.predicate (predicate ++ blanks)))
        (query.add (.predicate predicate)) :=
      ⟨predicate, rfl, (Text.trimEnd_append_of_blank predicate h).symm⟩
    have htrace := (halike.addAll clauses).trace_eq
    exact ⟨(render_of_trace htrace).trans (outcome_trace _), htrace⟩

/-- White space inside the quotes, in front of the predicate, and behind it. -/
theorem searchCommand_trims_ideographic :
    let pods : GroupResource := ⟨"", "pods"⟩
    let query := (Start.common Journey.registry).run " audit " [.api pods]
    let blanks := "\u3000\t"
    Text.Blank blanks ∧
    searchCommand " audit " pods (" verb=create" ++ blanks) =
      "search index=\" audit \" log_type=audit " ++
        "\"objectRef.apiGroup\"=\"\" \"objectRef.resource\"=\"pods\"  verb=create" ∧
    searchCommand " audit " pods blanks = searchCommand " audit " pods "" ∧
    ((query.add (.predicate (" verb=create" ++ blanks))).addAll [.event "1"]).render =
      ((query.add (.predicate " verb=create")).addAll [.event "1"]).render := by
  intro pods query blanks
  have hblanks : Text.Blank blanks := by decide
  obtain ⟨hcommand, -, hnone, hrender⟩ := searchCommand_trims
  refine ⟨hblanks, (hcommand _ _ _).trans (by decide), hnone _ _ _ hblanks, ?_⟩
  exact (hrender query " verb=create" blanks [.event "1"] hblanks).1

end AuditSearch.Query
