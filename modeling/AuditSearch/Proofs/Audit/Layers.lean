import AuditSearch.Audit.Registry
import Mathlib.Tactic.SplitIfs

/-!
# Which layer gives a field its rule

Registries and schemas are laid over each other, and the last layer that knows a name gives its
rule whole. `foldl_lastGiven?` says this once for every fold whose steps answer anew or leave the
answer as it was; a schema built from a list (`get?_insertMany`) and a registry under further
layers (`get?_effective`) are cases of it.
-/

namespace AuditSearch.Audit

open Output

/-- What the last of the steps gives that gives anything. -/
def lastGiven? {τ α : Type} (given? : τ → Option α) (steps : List τ) : Option α :=
  steps.reverse.findSome? given?

theorem lastGiven?_cons {τ α : Type} (given? : τ → Option α) (step : τ) (steps : List τ) :
    lastGiven? given? (step :: steps) = (lastGiven? given? steps).or (given? step) := by
  have hstep : [step].findSome? given? = given? step := by
    rw [List.findSome?_cons, List.findSome?_nil]
    cases given? step <;> rfl
  rw [lastGiven?, List.reverse_cons, List.findSome?_append, hstep, lastGiven?]

theorem isSome_lastGiven? {τ α : Type} {given? : τ → Option α} {steps : List τ} :
    (lastGiven? given? steps).isSome ↔ ∃ step ∈ steps, (given? step).isSome := by
  rw [lastGiven?, List.findSome?_isSome_iff]
  simp only [List.mem_reverse]

theorem lastGiven?_eq_none {τ α : Type} {given? : τ → Option α} {steps : List τ} :
    lastGiven? given? steps = none ↔ ∀ step ∈ steps, given? step = none := by
  rw [lastGiven?, List.findSome?_eq_none_iff]
  simp only [List.mem_reverse]

theorem exists_of_lastGiven?_eq_some {τ α : Type} {given? : τ → Option α} {steps : List τ} {a : α}
    (h : lastGiven? given? steps = some a) : ∃ step ∈ steps, given? step = some a := by
  obtain ⟨step, hstep, hgiven⟩ := List.exists_of_findSome?_eq_some h
  exact ⟨step, List.mem_reverse.mp hstep, hgiven⟩

/-- What holds of the default and of all that the steps give holds of the last. -/
theorem forall_lastGiven?_getD {τ α : Type} {given? : τ → Option α} {steps : List τ} {p : α → Prop}
    {default : α} (hdefault : p default) (h : ∀ step ∈ steps, ∀ a ∈ given? step, p a) :
    p ((lastGiven? given? steps).getD default) := by
  cases hlast : lastGiven? given? steps with
  | none => exact hdefault
  | some a =>
    obtain ⟨step, hstep, hgiven⟩ := exists_of_lastGiven?_eq_some hlast
    exact h step hstep a hgiven

theorem lastGiven?_append {τ α : Type} (given? : τ → Option α) (steps more : List τ) :
    lastGiven? given? (steps ++ more) = (lastGiven? given? more).or (lastGiven? given? steps) := by
  rw [lastGiven?, List.reverse_append, List.findSome?_append, lastGiven?, lastGiven?]

theorem lastGiven?_map {τ υ α : Type} (given? : υ → Option α) (f : τ → υ) (steps : List τ) :
    lastGiven? given? (steps.map f) = lastGiven? (fun step => given? (f step)) steps := by
  rw [lastGiven?, ← List.map_reverse, List.findSome?_map, lastGiven?]
  rfl

theorem lastGiven?_filterMap {τ υ α : Type} (given? : υ → Option α) (f : τ → Option υ)
    (steps : List τ) :
    lastGiven? given? (steps.filterMap f) = lastGiven? (fun step => (f step).bind given?) steps := by
  induction steps with
  | nil => rfl
  | cons step rest ih =>
    rw [lastGiven?_cons]
    cases hf : f step with
    | none => rw [List.filterMap_cons_none hf, ih, Option.bind_none, Option.or_none]
    | some given => rw [List.filterMap_cons_some hf, lastGiven?_cons, ih, Option.bind_some]

theorem map_lastGiven? {τ α β : Type} (given? : τ → Option α) (f : α → β) (steps : List τ) :
    (lastGiven? given? steps).map f = lastGiven? (fun step => (given? step).map f) steps :=
  List.map_findSome?

/-- Steps that give nothing may be left out. -/
theorem lastGiven?_filter {τ α : Type} {given? : τ → Option α} {p : τ → Bool}
    (h : ∀ step, p step = false → given? step = none) (steps : List τ) :
    lastGiven? given? (steps.filter p) = lastGiven? given? steps := by
  induction steps with
  | nil => rfl
  | cons step rest ih =>
    cases hp : p step with
    | true => rw [List.filter_cons_of_pos hp, lastGiven?_cons, lastGiven?_cons, ih]
    | false =>
      rw [List.filter_cons_of_neg (by rw [hp]; decide), lastGiven?_cons, ih, h step hp,
        Option.or_none]

theorem foldl_kept {σ τ α : Type} {step : σ → τ → σ} {part : σ → α}
    (h : ∀ s t, part (step s t) = part s) (s : σ) (steps : List τ) :
    part (steps.foldl step s) = part s := by
  induction steps generalizing s with
  | nil => rfl
  | cons t rest ih => rw [List.foldl_cons, ih, h]

theorem foldl_lastGiven? {σ τ α : Type} {step : σ → τ → σ} {given? : τ → Option α}
    (answer : σ → Option α) (h : ∀ s t, answer (step s t) = (given? t).or (answer s))
    (s : σ) (steps : List τ) :
    answer (steps.foldl step s) = (lastGiven? given? steps).or (answer s) := by
  induction steps generalizing s with
  | nil => rfl
  | cons t rest ih => rw [List.foldl_cons, ih, h, lastGiven?_cons, Option.or_assoc]

/-- The same where there is an answer from the start. -/
theorem foldl_lastGiven?_getD {σ τ α : Type} {step : σ → τ → σ} {given? : τ → Option α}
    {part : σ → α} (h : ∀ s t, part (step s t) = (given? t).getD (part s)) (s : σ)
    (steps : List τ) : part (steps.foldl step s) = (lastGiven? given? steps).getD (part s) := by
  have hstep : ∀ s t, some (part (step s t)) = (given? t).or (some (part s)) := by
    intro s t
    rw [h, Option.or_some]
  have hrun := foldl_lastGiven? (fun s => some (part s)) hstep s steps
  rw [Option.or_some] at hrun
  exact Option.some_inj.mp hrun

/-- Of the entries for one name the last is kept. -/
theorem get?_insertMany (schema : Schema) (entries : List (String × Rule)) (name : String) :
    (schema.insertMany entries).get? name =
      (lastGiven? (fun entry => if entry.1 = name then some entry.2 else none) entries).or
        (schema.get? name) := by
  have hstep : ∀ (schema : Schema) (entry : String × Rule),
      (schema.insert entry.1 entry.2).get? name =
        (if entry.1 = name then some entry.2 else none).or (schema.get? name) := by
    intro schema entry
    rw [Schema.get?_insert]
    split_ifs <;> rfl
  exact foldl_lastGiven? (fun schema : Schema => schema.get? name) hstep schema entries

theorem get?_ofList_ne_none_iff (entries : List (String × Rule)) (name : String) :
    (Schema.ofList entries).get? name ≠ none ↔ name ∈ entries.map Prod.fst := by
  have hentry : ∀ entry : String × Rule,
      (if entry.1 = name then some entry.2 else none).isSome ↔ entry.1 = name := by
    intro entry
    split_ifs with h <;> simp [h]
  rw [Schema.ofList, get?_insertMany, Schema.get?_empty, Option.or_none,
    ← Option.isSome_iff_ne_none, isSome_lastGiven?, List.mem_map]
  simp only [hentry]

namespace Registry

variable (registry : Registry) (name : String)

/-- The rule that the entry of `api` has for `name`, if there is such an entry. -/
def entryRule? (api : GroupResource) : Option Rule :=
  (registry.get? api).bind fun schema => schema.get? name

/-- The rule for `name` in the records of `api`, which is looked up in the entry of `api` and then
in the one for every API. -/
def rule? (api : GroupResource) : Option Rule :=
  (if api = .any then none else registry.entryRule? name api).or (registry.entryRule? name .any)

theorem get?_getD_empty (api : GroupResource) :
    ((registry.get? api).getD .empty).get? name = registry.entryRule? name api := by
  unfold entryRule?
  cases registry.get? api with
  | none => exact Schema.get?_empty name
  | some schema => rfl

theorem get?_common : registry.common.get? name = registry.entryRule? name .any :=
  registry.get?_getD_empty name .any

theorem get?_effective (api : GroupResource) (layers : List Schema) :
    (registry.effective api layers).get? name =
      (lastGiven? (fun layer => layer.get? name) layers).or (registry.rule? name api) := by
  have hlayers := foldl_lastGiven? (fun schema : Schema => schema.get? name)
    (fun lower upper => Schema.get?_overlay lower upper name)
  have hany : api.isAny = true ↔ api = .any := GroupResource.isAny_iff
  unfold effective rule?
  dsimp only
  rw [hlayers]
  split_ifs with h₁ h₂ h₂
  · rw [get?_common, Option.none_or]
  · exact absurd (hany.mp h₁) h₂
  · exact absurd (hany.mpr h₂) h₁
  · rw [Schema.get?_overlay, get?_getD_empty, get?_common]

theorem get?_effective_nil (api : GroupResource) :
    (registry.effective api []).get? name = registry.rule? name api := by
  have hnone : lastGiven? (fun layer : Schema => layer.get? name) [] = none := rfl
  rw [get?_effective, hnone, Option.none_or]

theorem entryRule?_set (api other : GroupResource) (schema : Schema) :
    (registry.set api schema).entryRule? name other =
      if api = other then schema.get? name else registry.entryRule? name other := by
  unfold entryRule?
  rw [get?_set]
  split_ifs <;> rfl

theorem entryRule?_extend (api other : GroupResource) (schema : Schema) :
    (registry.extend api schema).entryRule? name other =
      if api = other then (schema.get? name).or (registry.entryRule? name other)
      else registry.entryRule? name other := by
  unfold entryRule?
  rw [get?_extend]
  split_ifs with h
  · subst h
    rw [Option.bind_some, Schema.get?_overlay, get?_getD_empty]
    rfl
  · rfl

end Registry

end AuditSearch.Audit
