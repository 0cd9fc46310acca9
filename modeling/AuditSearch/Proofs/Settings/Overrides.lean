import AuditSearch.Proofs.Audit.Layers
import AuditSearch.Settings.Basic

/-!
# What the fields of the settings change

The fields of the settings are laid over the built-in rules for every API, and nothing else changes:
the entries of particular APIs stay, and they still come first where they have a rule of their own.
Without fields the built-in registry is taken as it is, which is no exception
(`registry_eq_extend`): fields that repeat built-in rules leave the same registry.
-/

namespace AuditSearch.Output.Schema

/-- Rules that are laid over a schema change nothing exactly if the schema has them already. -/
theorem overlay_eq_left_iff {lower upper : Schema} :
    lower.overlay upper = lower ↔
      ∀ name rule, upper.get? name = some rule → lower.get? name = some rule := by
  constructor
  · intro h name rule hrule
    rw [← h, get?_overlay, hrule, Option.some_or]
  · intro h
    apply ext_get?
    intro name
    rw [get?_overlay]
    cases hrule : upper.get? name with
    | none => exact Option.none_or
    | some rule => exact (h name rule hrule).symm

theorem eq_empty_of_isEmpty {schema : Schema} (h : schema.isEmpty = true) : schema = .empty :=
  congrArg mk (Std.ExtTreeMap.isEmpty_iff.mp h)

end AuditSearch.Output.Schema

namespace AuditSearch.Audit.Registry

open Output

theorem extend_eq_self_iff {registry : Registry} {api : GroupResource} {entry : Schema}
    (hentry : registry.get? api = some entry) (schema : Schema) :
    registry.extend api schema = registry ↔
      ∀ name rule, schema.get? name = some rule → entry.get? name = some rule := by
  have hextended : (registry.extend api schema).get? api = some (entry.overlay schema) := by
    rw [get?_extend, if_pos rfl, hentry, Option.getD_some]
  rw [← Schema.overlay_eq_left_iff]
  constructor
  · intro h
    rw [h, hentry] at hextended
    exact (Option.some.inj hextended).symm
  · intro h
    apply ext_get?
    intro other
    by_cases hapi : api = other
    · rw [← hapi, hextended, h, hentry]
    · rw [get?_extend, if_neg hapi]

end AuditSearch.Audit.Registry

namespace AuditSearch.Settings

open Audit Output

/-- The built-in rules for every API. -/
theorem get?_registry_any : Journey.registry.get? .any = some Journey.schema := by
  have hedits : ∀ edit ∈ [Journey.applications, Journey.components, Journey.releases],
      edit ≠ GroupResource.any := by decide
  simp only [List.forall_mem_cons] at hedits
  simp [Journey.registry, Registry.applyAll, Registry.ofSchema, Edit.api, hedits]

variable (settings : Settings)

theorem registry_eq_extend :
    settings.registry = Journey.registry.extend .any settings.fields := by
  unfold registry
  split_ifs with hempty
  · refine ((Registry.extend_eq_self_iff get?_registry_any _).mpr fun name rule hrule => ?_).symm
    rw [Schema.eq_empty_of_isEmpty hempty, Schema.get?_empty] at hrule
    exact nomatch hrule
  · rfl

theorem entryRule?_registry (name : String) (api : GroupResource) :
    settings.registry.entryRule? name api =
      if api = .any then (settings.fields.get? name).or (Journey.schema.get? name)
      else Journey.registry.entryRule? name api := by
  rw [registry_eq_extend, Registry.entryRule?_extend]
  by_cases hapi : api = .any
  · subst hapi
    rw [if_pos rfl, if_pos rfl, Registry.entryRule?, get?_registry_any, Option.bind_some]
  · rw [if_neg hapi, if_neg (Ne.symm hapi)]

/-- The fields of the settings take the place of the built-in rules for every API, name by name. The
entries of particular APIs stay and come before them, and the registry is the built-in one exactly
if the fields repeat what it has. -/
theorem registry_overrides :
    (∀ api, api ≠ .any → settings.registry.get? api = Journey.registry.get? api) ∧
    (∃ common, settings.registry.get? .any = some common ∧
      Journey.registry.get? .any = some Journey.schema ∧
      ∀ name, common.get? name = (settings.fields.get? name).or (Journey.schema.get? name)) ∧
    (∀ api name, (settings.registry.effective api []).get? name =
      (if api = .any then none
        else (Journey.registry.get? api).bind fun schema => schema.get? name).or
          ((settings.fields.get? name).or (Journey.schema.get? name))) ∧
    (settings.registry = Journey.registry ↔
      ∀ name rule, settings.fields.get? name = some rule →
        Journey.schema.get? name = some rule) ∧
    settings.registry = Journey.registry.extend .any settings.fields := by
  refine ⟨?_, ⟨Journey.schema.overlay settings.fields, ?_, get?_registry_any, ?_⟩, ?_, ?_, ?_⟩
  · intro api hapi
    rw [registry_eq_extend, Registry.get?_extend, if_neg (Ne.symm hapi)]
  · rw [registry_eq_extend, Registry.get?_extend, if_pos rfl, get?_registry_any, Option.getD_some]
  · exact Schema.get?_overlay Journey.schema settings.fields
  · intro api name
    rw [Registry.get?_effective_nil, Registry.rule?, entryRule?_registry, entryRule?_registry,
      if_pos rfl]
    by_cases hapi : api = .any
    · rw [if_pos hapi, if_pos hapi]
    · rw [if_neg hapi, if_neg hapi, if_neg hapi]
      rfl
  · rw [registry_eq_extend]
    exact Registry.extend_eq_self_iff get?_registry_any settings.fields
  · exact registry_eq_extend settings

end AuditSearch.Settings
