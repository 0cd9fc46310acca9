import AuditSearch.Proofs.Journey.Vocabulary

/-!
# Taking printouts for programs apart

A batch that succeeds prints the texts of its entries, each as it is written on its own
(`describeAll_eq_ok`). None of the texts is empty, and over an index and rules without a NUL
character none holds one, so a program finds them again by cutting the printout at the NUL
characters (`splitAt_batch`).
-/

namespace AuditSearch.Query

open Output

variable {query : Query} {text : String}

theorem lacks_nul_of_render (hlacks : query.Lacks '\x00') (h : query.render = .ok text) :
    Text.Lacks '\x00' text := by
  have hsep : '\x00' ∈ Expression.separators := by decide
  have hspaced : Text.Lacks '\x00' " | " := by decide
  have hbar : Text.Lacks '\x00' "|" := by decide
  have hsearch : Text.Lacks '\x00' query.search := hspaced.intercalate (hlacks.search hsep)
  have hcommands := hlacks.reading.commands hsep
  have hstages : Text.Lacks '\x00' (query.schema.reading query.request).plan.stages :=
    .join (List.forall_mem_map.mpr fun command hcommand => hbar.append (hcommands command hcommand))
  rw [(plan_of_render h).2]
  exact hsearch.append hstages

/-- Every text has the bar in front of its last command. -/
theorem not_lacks_stages (plan : Plan) : ¬Text.Lacks '|' plan.stages := by
  have hdrop : "|" ++ Plan.dropMetadata ∈ plan.commands.map ("|" ++ ·) :=
    List.mem_map_of_mem (by simp [Plan.commands])
  have hbar : '|' ∈ ("|" ++ Plan.dropMetadata).toList := by decide
  have hmem : '|' ∈ plan.stages.toList := by
    rw [Plan.stages, String.toList_join]
    exact List.mem_flatMap_of_mem hdrop hbar
  exact fun hlacks => hlacks hmem

theorem ne_empty_of_render (h : query.render = .ok text) : text ≠ "" := by
  rw [(plan_of_render h).2]
  intro hempty
  have hlacks : Text.Lacks '|' (query.search ++ (query.schema.reading query.request).plan.stages) := by
    rw [hempty]
    exact List.not_mem_nil
  exact not_lacks_stages _ (Text.lacks_append.mp hlacks).2

end AuditSearch.Query

namespace AuditSearch.Report

open Audit Journey Query

section
variable {entries : List Entry} {index : String} {registry : Registry}

/-- The texts of a batch are those of its entries, each under its own title. -/
theorem describeAll_eq_ok {queries : List Titled}
    (h : (describeAll entries index registry).outcome = .ok queries) :
    List.Forall₂ (fun entry titled => titled.title = entry.title ∧
      entry.render index registry = .ok titled.query) entries queries := by
  induction entries generalizing queries with
  | nil =>
    obtain rfl := Except.ok.inj h
    exact .nil
  | cons entry rest ih =>
    have hentry := outcome_describe entry index registry
    rw [describeAll_cons] at h
    cases hrender : entry.render index registry with
    | error error =>
      rw [hrender] at hentry
      rw [Traced.bind_of_error hentry] at h
      exact nomatch h
    | ok text =>
      rw [hrender] at hentry
      rw [Traced.bind_of_ok hentry] at h
      cases hrest : (describeAll rest index registry).outcome with
      | error error =>
        rw [Traced.bind_of_error hrest] at h
        exact nomatch h
      | ok titled =>
        rw [Traced.bind_of_ok hrest] at h
        obtain rfl := Except.ok.inj h
        exact .cons ⟨rfl, hrender⟩ (ih hrest)

theorem batch_eq_ok {layout : Layout} {text : String}
    (h : (batch entries index registry layout).outcome = .ok text) :
    ∃ queries, (describeAll entries index registry).outcome = .ok queries ∧
      text = layout.print queries := by
  unfold batch at h
  cases hqueries : (describeAll entries index registry).outcome with
  | error error =>
    rw [Traced.bind_of_error hqueries] at h
    exact nomatch h
  | ok queries =>
    rw [Traced.bind_of_ok hqueries] at h
    exact ⟨queries, rfl, (Except.ok.inj h).symm⟩

theorem pieces_of_batch {text : String}
    (h : (batch entries index registry .machine).outcome = .ok text) :
    ∃ pieces, text = (String.singleton '\x00').intercalate pieces ∧
      List.Forall₂ (fun entry piece => entry.render index registry = .ok piece) entries pieces := by
  obtain ⟨queries, hqueries, htext⟩ := batch_eq_ok h
  refine ⟨queries.map Titled.query, htext, ?_⟩
  rw [List.forall₂_map_right_iff]
  exact (describeAll_eq_ok hqueries).imp fun _ _ h => h.2

theorem lacks_pieces (hentries : entries ⊆ catalog) (hindex : Text.Lacks '\x00' index)
    (hregistry : registry.Lacks '\x00') {pieces : List String}
    (h : List.Forall₂ (fun entry piece => entry.render index registry = .ok piece) entries pieces) :
    ∀ piece ∈ pieces, Text.Lacks '\x00' piece := by
  induction h with
  | nil => exact List.forall_mem_nil _
  | cons hpiece _ ih =>
    rw [List.cons_subset] at hentries
    have hquery := Entry.lacks_query hentries.1 hindex hregistry
    exact List.forall_mem_cons.mpr ⟨lacks_nul_of_render hquery hpiece, ih hentries.2⟩

end

/-- A printout for programs is empty if there is nothing to print. Otherwise cutting it at the NUL
characters gives as many pieces as there are entries, and each is the text of its entry. -/
theorem splitAt_batch {entries : List Entry} {index : String} {registry : Registry} {text : String}
    (hentries : entries ⊆ catalog) (hindex : Text.Lacks '\x00' index)
    (hregistry : registry.Lacks '\x00')
    (h : (batch entries index registry .machine).outcome = .ok text) :
    (text = "" ↔ entries = []) ∧
    (entries ≠ [] →
      (Text.splitAt '\x00' text).length = entries.length ∧
      List.Forall₂ (fun entry piece => entry.render index registry = .ok piece) entries
        (Text.splitAt '\x00' text)) := by
  obtain ⟨pieces, rfl, hpieces⟩ := pieces_of_batch h
  have hlacks := lacks_pieces hentries hindex hregistry hpieces
  cases hpieces with
  | nil => exact ⟨⟨fun _ => rfl, fun _ => rfl⟩, fun hne => absurd rfl hne⟩
  | @cons entry piece rest others hpiece hothers =>
    have hall : List.Forall₂ (fun entry piece => entry.render index registry = .ok piece)
        (entry :: rest) (piece :: others) := .cons hpiece hothers
    have hnonempty : (String.singleton '\x00').intercalate (piece :: others) ≠ "" := by
      rw [Text.intercalate_eq_join]
      intro hempty
      exact ne_empty_of_render hpiece (String.append_eq_empty_iff.mp hempty).1
    rw [Text.splitAt_intercalate (List.cons_ne_nil _ _) hlacks]
    exact ⟨⟨fun hempty => absurd hempty hnonempty, nofun⟩, fun _ => ⟨hall.length_eq.symm, hall⟩⟩

/-- An entry that comes twice, and a rule with bars and quotes in its expression. -/
theorem splitAt_batch_releases :
    let entries := [releaseCompleted, application, releaseCompleted]
    let registry :=
      Journey.registry.extend releases (.ofList [("name", .ofExpression "\"|\".'objectRef.name'")])
    entries ⊆ catalog ∧ Text.Lacks '\x00' "audit" ∧ registry.Lacks '\x00' ∧
    ∃ text, (batch entries "audit" registry .machine).outcome = .ok text ∧ text ≠ "" ∧
      (Text.splitAt '\x00' text).length = 3 ∧
      List.Forall₂ (fun entry piece => entry.render "audit" registry = .ok piece) entries
        (Text.splitAt '\x00' text) := by
  intro entries registry
  have hentries : entries ⊆ catalog := by simp [entries, catalog]
  have hindex : Text.Lacks '\x00' "audit" := by decide
  have hregistry : registry.Lacks '\x00' := by decide +kernel
  have hcovers : registry.Covers schema := by
    have hkeeps : (Edit.extend releases
        (.ofList [("name", .ofExpression "\"|\".'objectRef.name'")])).KeepsCommon := trivial
    exact covers_registry.apply hkeeps
  obtain ⟨text, htext⟩ := exists_batch hcovers hentries "audit" .machine
  obtain ⟨hempty, hpieces⟩ := splitAt_batch hentries hindex hregistry htext
  have hne : entries ≠ [] := List.cons_ne_nil _ _
  exact ⟨hentries, hindex, hregistry, text, htext, mt hempty.mp hne, hpieces hne⟩

end AuditSearch.Report
