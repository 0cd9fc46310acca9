import AuditSearch.Proofs.Query.Conditions
import AuditSearch.Proofs.Text.Occurrences

/-!
# Where the commands of a filter read

A command reads a list at a position where `mvindex(` stands in it, and what comes after this mark
names the list and the position. In the second command of a status condition the position is the
index field every time (`StatusCondition.readsAt_requireText`). The values and the pattern stand in
the command as they were given, so this needs that they do not hold the mark themselves.
-/

namespace AuditSearch.Query

open Expression Text

/-- Every `mvindex(` in the text is followed by a list and by `position`. -/
def ReadsAt (position text : String) : Prop :=
  Followed "mvindex(" (fun after => ∃ list rest, Lacks '\'' list ∧
    after = "'" ++ list ++ "', " ++ position ++ ")" ++ rest) text

section
variable {position list text more : String}

/-- A text that reads only at `position` has `position` where it reads a list. -/
theorem ReadsAt.position_of_valueAt {other : String} (hquote : Lacks '\'' list)
    (h : ReadsAt position (text ++ valueAt list other ++ more)) :
    ∃ rest, other ++ ")" ++ more = position ++ ")" ++ rest := by
  have hopen : "mvindex('" = "mvindex(" ++ "'" := rfl
  have hclose : "', " = String.singleton '\'' ++ ", " := rfl
  have htext : text ++ valueAt list other ++ more =
      text ++ "mvindex(" ++ ("'" ++ list ++ "', " ++ other ++ ")" ++ more) := by
    simp only [valueAt, hopen, String.append_assoc]
  obtain ⟨read, rest, hread, hafter⟩ := h _ _ htext
  have hlists : list ++ String.singleton '\'' ++ (", " ++ (other ++ ")" ++ more)) =
      read ++ String.singleton '\'' ++ (", " ++ (position ++ ")" ++ rest)) := by
    simpa only [hclose, String.append_assoc, String.append_right_inj] using hafter
  obtain ⟨-, hpositions⟩ := append_singleton_inj hquote hread hlists
  exact ⟨rest, (String.append_right_inj _).mp hpositions⟩

theorem ReadsAt.behind (htext : Lacks 'm' text) (h : ReadsAt position more) :
    ReadsAt position (text ++ more) :=
  Followed.behind rfl htext h

theorem ReadsAt.valueAt_append (hquote : Lacks '\'' list) (hlist : Unmarked "mvindex(" list)
    (hposition : Unmarked "mvindex(" position) (h : ReadsAt position more) :
    ReadsAt position (valueAt list position ++ more) := by
  have htext : valueAt list position ++ more =
      "mvindex(" ++ ("'" ++ (list ++ ("'" ++ (", " ++ (position ++ (")" ++ more)))))) := by
    simp only [← mvindex_eq_valueAt, mvindex, fieldRef, String.append_assoc]
  have hclose : "', " = "'" ++ ", " := rfl
  have hafter : "'" ++ (list ++ ("'" ++ (", " ++ (position ++ (")" ++ more))))) =
      "'" ++ list ++ "', " ++ position ++ ")" ++ more := by
    simp only [hclose, String.append_assoc]
  have hmark : "mvindex(" = String.singleton 'm' ++ "vindex(" := rfl
  rw [htext]
  refine Followed.of_mark hmark ⟨list, more, hquote, hafter⟩ ?_
  -- The rest of the mark and what comes after it do not hold a second one.
  refine ReadsAt.behind (by decide) (.behind (by decide) ?_)
  refine Unmarked.append (c := '\'') rfl (by decide) hlist (ReadsAt.behind (by decide) ?_)
  exact Unmarked.append (c := ')') rfl (by decide) hposition h

theorem ReadsAt.literal_append {value : String} (hvalue : Unmarked "mvindex(" value)
    (h : ReadsAt position more) : ReadsAt position (literal value ++ more) := by
  rw [literal, String.append_assoc, String.append_assoc]
  exact .behind (by decide) (Unmarked.append (c := '"') rfl (by decide) hvalue h)

theorem ReadsAt.literalList_append {values : List String}
    (hvalues : ∀ value ∈ values, Unmarked "mvindex(" value) (h : ReadsAt position more) :
    ReadsAt position (literalList values ++ more) := by
  unfold literalList
  induction values with
  | nil => rwa [List.map_nil, String.intercalate_nil, String.empty_append]
  | cons value rest ih =>
    rw [List.forall_mem_cons] at hvalues
    cases rest with
    | nil => exact .literal_append hvalues.1 h
    | cons next rest =>
      rw [List.map_cons, List.map_cons, String.intercalate_cons_cons, String.append_assoc,
        String.append_assoc]
      exact .literal_append hvalues.1 (.behind (by decide) (ih hvalues.2))

theorem readsAt_requireText {checks : List Check} (hposition : Unmarked "mvindex(" position)
    (h : ReadsAt position (Check.joined position checks)) :
    ReadsAt position (requireText position checks) := by
  unfold requireText
  rw [String.append_assoc, String.append_assoc]
  exact .behind (by decide) (Unmarked.append (c := ')') rfl (by decide) hposition h)

end

namespace StatusCondition

section
variable {position list pattern more : String} {values : List String}

theorem readsAt_joined_oneOfChecks (hquote : Lacks '\'' list) (hlist : Unmarked "mvindex(" list)
    (hposition : Unmarked "mvindex(" position)
    (hvalues : ∀ value ∈ values, Unmarked "mvindex(" value) (h : ReadsAt position more) :
    ReadsAt position (Check.joined position (oneOfChecks list values) ++ more) := by
  by_cases hne : values = []
  · subst hne
    rwa [joined_oneOfChecks_nil, String.empty_append]
  · rw [joined_oneOfChecks list hne, opening]
    simp only [String.append_assoc]
    refine .behind (by decide) (.valueAt_append hquote hlist hposition (.behind (by decide) ?_))
    exact .literalList_append hvalues (.behind (by decide) h)

theorem readsAt_joined_likeChecks (hquote : Lacks '\'' list) (hlist : Unmarked "mvindex(" list)
    (hposition : Unmarked "mvindex(" position) (hpattern : Unmarked "mvindex(" pattern) :
    ReadsAt position (Check.joined position (likeChecks list pattern)) := by
  by_cases hne : pattern = ""
  · subst hne
    rw [joined_likeChecks_empty]
    exact hpattern.followed
  · have hend : "\")" = "\"" ++ ")" := rfl
    have hbracket : Unmarked "mvindex(" ")" := unmarked_of_lacks (c := 'm') (by decide) (by decide)
    rw [joined_likeChecks list hne, hend]
    simp only [String.append_assoc]
    refine .behind (by decide) (.valueAt_append hquote hlist hposition (.behind (by decide) ?_))
    exact Unmarked.append (c := '"') rfl (by decide) hpattern hbracket.followed

end

variable (condition : StatusCondition)

/-- What stands in the second command as it was given. -/
def given : List String :=
  condition.indexField :: condition.pattern :: (condition.reasons ++ condition.statuses)

theorem readsAt_requireText (h : ∀ text ∈ condition.given, Unmarked "mvindex(" text) :
    ReadsAt condition.indexField (requireText condition.indexField condition.checks) := by
  unfold given at h
  rw [List.forall_mem_cons, List.forall_mem_cons, List.forall_mem_append] at h
  obtain ⟨hposition, hpattern, hreasons, hstatuses⟩ := h
  have hlist : ∀ list, Lacks 'v' list → Unmarked "mvindex(" list :=
    fun _ => unmarked_of_lacks (by decide)
  refine Query.readsAt_requireText hposition ?_
  rw [joined_checks]
  refine readsAt_joined_oneOfChecks (by decide) (hlist _ (by decide)) hposition hreasons ?_
  refine readsAt_joined_oneOfChecks (by decide) (hlist _ (by decide)) hposition hstatuses ?_
  exact readsAt_joined_likeChecks (by decide) (hlist _ (by decide)) hposition hpattern

end StatusCondition

end AuditSearch.Query
