import AuditSearch.Proofs.Shell.Endings

/-!
# Which entries are chosen

Entries are chosen by their names, in the arguments or in the settings. The two ways refuse the same
lists of names for the same reason, and for a list that they accept they choose the same entries
(`choose_eq_ok_iff`, `selected_of_names`). What is chosen is a `Selection`, and the members of the
list determine it (`selection_iff`), so neither their order nor their repetition matters. The two ways differ in what the
empty list means: arguments without names leave the choice to the settings, while an empty list there
chooses nothing.
-/

namespace AuditSearch.Shell

open Journey Settings

/-- The entries of these names, each once, in the order of the catalog. -/
structure Selection (names : List String) (entries : List Entry) : Prop where
  sublist : entries.Sublist catalog
  nodup : (entries.map Entry.name).Nodup
  mem_iff : ∀ entry, entry ∈ entries ↔ entry ∈ catalog ∧ entry.name ∈ names

theorem nodup_catalog_names : (catalog.map Entry.name).Nodup := by
  decide

/-- In a list without repeats, a part in the same order is picked out by its members. -/
theorem eq_filter_of_sublist {α : Type} {part whole : List α} (h : part.Sublist whole)
    (hnodup : whole.Nodup) {p : α → Bool} (hp : ∀ a ∈ whole, p a = true ↔ a ∈ part) :
    part = whole.filter p := by
  induction h with
  | slnil => rfl
  | cons a hsub ih =>
    obtain ⟨ha, hnodup⟩ := List.nodup_cons.mp hnodup
    have hpa : ¬p a = true := fun hpa => ha (hsub.subset ((hp a List.mem_cons_self).mp hpa))
    rw [List.filter_cons_of_neg hpa]
    exact ih hnodup fun b hb => hp b (List.mem_cons_of_mem a hb)
  | cons_cons a hsub ih =>
    obtain ⟨ha, hnodup⟩ := List.nodup_cons.mp hnodup
    rw [List.filter_cons_of_pos ((hp a List.mem_cons_self).mpr List.mem_cons_self)]
    refine congrArg (List.cons a) (ih hnodup fun b hb => ?_)
    have hne : b ≠ a := fun heq => ha (heq ▸ hb)
    rw [hp b (List.mem_cons_of_mem a hb), List.mem_cons, or_iff_right hne]

section
variable {names others : List String} {entries : List Entry}

theorem selection_select (names : List String) : Selection names (select names) where
  sublist := List.filter_sublist
  nodup := nodup_catalog_names.sublist (List.filter_sublist.map Entry.name)
  mem_iff entry := by
    rw [select_eq_filter, List.mem_filter, decide_eq_true_eq]

theorem selection_iff : Selection names entries ↔ entries = select names := by
  constructor
  · intro h
    have hnodup : catalog.Nodup := nodup_catalog_names.of_map Entry.name
    rw [select_eq_filter]
    refine eq_filter_of_sublist h.sublist hnodup fun entry hentry => ?_
    rw [decide_eq_true_eq, h.mem_iff, and_iff_right hentry]
  · rintro rfl
    exact selection_select names

theorem select_congr (h : ∀ name, name ∈ names ↔ name ∈ others) : select names = select others := by
  rw [select_eq_filter, select_eq_filter]
  exact List.filter_congr fun entry _ => decide_eq_decide.mpr (h entry.name)

variable (settings : Settings)

theorem choose_eq_match (hne : names ≠ []) :
    choose settings names =
      match names.find? fun name => (Journey.find? name).isNone with
      | some name => .error (.unknownQuery name)
      | none => .ok (select names) := by
  cases names with
  | nil => exact absurd rfl hne
  | cons first rest => rfl

theorem choose_eq_error_iff {failure : Failure} :
    choose settings names = .error failure ↔
      ∃ name, FirstUnknown names name ∧ failure = .unknownQuery name := by
  simp only [← find?_unknown_eq_some_iff]
  cases names with
  | nil => simp [choose]
  | cons first rest =>
    rw [choose_eq_match settings (List.cons_ne_nil first rest)]
    cases hfind : (first :: rest).find? fun name => (Journey.find? name).isNone with
    | none => simp
    | some name => simp [eq_comm]

theorem choose_eq_ok_iff (hne : names ≠ []) :
    choose settings names = .ok entries ↔ (∀ name ∈ names, Known name) ∧ Selection names entries := by
  rw [choose_eq_match settings hne, selection_iff, ← find?_unknown_eq_none_iff]
  cases names.find? fun name => (Journey.find? name).isNone with
  | none => simp [eq_comm]
  | some name => simp

theorem selected_of_names (h : settings.queries? = some names) :
    settings.selected = select names := by
  unfold selected
  rw [h]

/-- A list of names is refused in the arguments and in the settings for its first name that the
catalog does not have. Otherwise both choose the entries of these names, whatever list the settings
have of their own, and lists of the same names choose the same. Without names in the arguments the
settings choose. -/
theorem choose_agrees :
    (∀ failure, choose settings names = .error failure ↔
      ∃ name, FirstUnknown names name ∧ failure = .unknownQuery name) ∧
    (∀ name, ({ settings with queries? := some names } : Settings).unknownQuery? = some name ↔
      FirstUnknown names name) ∧
    (names ≠ [] → ∀ entries,
      (choose settings names = .ok entries ↔
        (∀ name ∈ names, Known name) ∧ Selection names entries) ∧
      (choose settings names = .ok entries →
        ({ settings with queries? := some names } : Settings).selected = entries)) ∧
    (names ≠ [] → ∀ others, (∀ name, name ∈ names ↔ name ∈ others) → ∀ entries,
      choose settings names = .ok entries ↔ choose settings others = .ok entries) ∧
    (∀ others, (∀ name, name ∈ names ↔ name ∈ others) →
      ({ settings with queries? := some names } : Settings).selected =
        ({ settings with queries? := some others } : Settings).selected) ∧
    choose settings [] = .ok settings.selected ∧
    (settings.queries? = none → settings.selected = catalog) ∧
    ∀ own, settings.queries? = some own →
      Selection own settings.selected ∧ (own = [] → settings.selected = []) := by
  refine ⟨fun _ => choose_eq_error_iff settings, ?_, ?_, ?_, ?_, rfl, ?_, ?_⟩
  · intro name
    rw [unknownQuery?_eq_some_iff]
    simp
  · intro hne entries
    refine ⟨choose_eq_ok_iff settings hne, fun hchoose => ?_⟩
    have hselection := ((choose_eq_ok_iff settings hne).mp hchoose).2
    exact (selected_of_names _ rfl).trans (selection_iff.mp hselection).symm
  · intro hne others hsame entries
    have hne' : others ≠ [] := by
      obtain ⟨name, hname⟩ := List.exists_mem_of_ne_nil names hne
      exact List.ne_nil_of_mem ((hsame name).mp hname)
    rw [choose_eq_ok_iff settings hne, choose_eq_ok_iff settings hne', selection_iff, selection_iff,
      select_congr hsame]
    simp only [hsame]
  · intro others hsame
    rw [selected_of_names _ rfl, selected_of_names _ rfl, select_congr hsame]
  · intro hnone
    unfold selected
    rw [hnone]
  · intro own hown
    rw [selected_of_names settings hown]
    refine ⟨selection_select own, ?_⟩
    rintro rfl
    rfl

end

end AuditSearch.Shell
