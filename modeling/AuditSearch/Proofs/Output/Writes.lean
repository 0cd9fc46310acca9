import AuditSearch.Proofs.Audit.Layers
import AuditSearch.Proofs.Text.ByteOrder
import Mathlib.Data.Finset.Card

/-!
# Schemas after any writes

A schema is begun from a list of pairs of a name and a rule, and it is written to in four ways. Each
way writes a list of pairs, one after the other, so that all histories come to one list of pairs
(`ofList_writeAll`). A schema is the finite map of these pairs, in which the last pair of a name
counts (`records_ofList`), and two schemas are equal exactly if they have the same rules.
-/

namespace AuditSearch.Output

open Audit

namespace Schema

/-- A way to write to a schema. -/
inductive Write where
  /-- Gives back the rule that the name had before. -/
  | replace (name : String) (rule : Rule)
  | insert (name : String) (rule : Rule)
  | overlay (upper : Schema)
  | insertMany (entries : List (String × Rule))
deriving DecidableEq

namespace Write

/-- The pairs in the order in which they are written. -/
def pairs : Write → List (String × Rule)
  | replace name rule => [(name, rule)]
  | insert name rule => [(name, rule)]
  | overlay upper => upper.toList
  | insertMany entries => entries

end Write

def write (schema : Schema) : Write → Schema
  | .replace name rule => (schema.replace name rule).2
  | .insert name rule => schema.insert name rule
  | .overlay upper => schema.overlay upper
  | .insertMany entries => schema.insertMany entries

def writeAll (schema : Schema) (writes : List Write) : Schema :=
  writes.foldl write schema

/-- The rule in the last pair of that name. -/
def lastRule? (pairs : List (String × Rule)) (name : String) : Option Rule :=
  lastGiven? (fun pair => if pair.1 = name then some pair.2 else none) pairs

/-! ## All writes are lists of pairs -/

theorem lastRule?_eq_none_iff {pairs : List (String × Rule)} {name : String} :
    lastRule? pairs name = none ↔ name ∉ pairs.map Prod.fst := by
  unfold lastRule?
  simp only [lastGiven?_eq_none, ite_eq_right_iff, reduceCtorEq, imp_false, List.mem_map, not_exists,
    not_and]

/-- In a list without repeated names every pair is the last of its name. -/
theorem lastRule?_eq_some_of_mem {pairs : List (String × Rule)} (h : (pairs.map Prod.fst).Nodup)
    {name : String} {rule : Rule} (hmem : (name, rule) ∈ pairs) :
    lastRule? pairs name = some rule := by
  cases hlast : lastRule? pairs name with
  | none => exact absurd (List.mem_map_of_mem hmem) (lastRule?_eq_none_iff.mp hlast)
  | some other =>
    obtain ⟨pair, hpair, hgiven⟩ := exists_of_lastGiven?_eq_some hlast
    obtain ⟨hname, hrule⟩ := (Option.ite_none_right_eq_some).mp hgiven
    have hsame : pair = (name, rule) := List.inj_on_of_nodup_map h hpair hmem hname
    rw [← hrule, hsame]

theorem nodup_names (schema : Schema) : schema.names.Nodup :=
  Std.ExtTreeMap.nodup_keys

theorem lastRule?_toList (schema : Schema) (name : String) :
    lastRule? schema.toList name = schema.get? name := by
  have hnames : schema.toList.map Prod.fst = schema.names := Std.ExtTreeMap.map_fst_toList_eq_keys
  cases hrule : schema.get? name with
  | none =>
    rw [lastRule?_eq_none_iff, hnames, mem_names, hrule]
    exact Bool.false_ne_true
  | some rule =>
    refine lastRule?_eq_some_of_mem (hnames ▸ schema.nodup_names) ?_
    exact Std.ExtTreeMap.mem_toList_iff_getElem?_eq_some.mpr hrule

theorem overlay_eq_insertMany (lower upper : Schema) :
    lower.overlay upper = lower.insertMany upper.toList := by
  apply ext_get?
  intro name
  rw [get?_overlay, get?_insertMany]
  exact congrArg (Option.or · _) (lastRule?_toList upper name).symm

theorem write_eq_insertMany (schema : Schema) (write : Write) :
    schema.write write = schema.insertMany write.pairs := by
  cases write with
  | replace name rule => rfl
  | insert name rule => rfl
  | overlay upper => exact overlay_eq_insertMany schema upper
  | insertMany entries => rfl

theorem writeAll_eq_insertMany (schema : Schema) (writes : List Write) :
    schema.writeAll writes = schema.insertMany (writes.flatMap Write.pairs) := by
  induction writes generalizing schema with
  | nil => rfl
  | cons write rest ih =>
    have hrest : schema.writeAll (write :: rest) = (schema.write write).writeAll rest := rfl
    rw [hrest, ih, write_eq_insertMany, List.flatMap_cons]
    exact List.foldl_append.symm

theorem ofList_writeAll (entries : List (String × Rule)) (writes : List Write) :
    (ofList entries).writeAll writes = ofList (entries ++ writes.flatMap Write.pairs) := by
  rw [writeAll_eq_insertMany]
  exact List.foldl_append.symm

/-! ## The map of a list of pairs -/

/-- Every way to look at the schema shows the finite map of the pairs. -/
structure Records (schema : Schema) (pairs : List (String × Rule)) : Prop where
  get? : ∀ name, schema.get? name = lastRule? pairs name
  replaced : ∀ name rule, (schema.replace name rule).1 = lastRule? pairs name
  contains : ∀ name, schema.contains name = true ↔ name ∈ pairs.map Prod.fst
  size : schema.size = (pairs.map Prod.fst).toFinset.card
  isEmpty : schema.isEmpty = true ↔ pairs = []
  ascending : Text.Ascending schema.names
  names : ∀ name, name ∈ schema.names ↔ name ∈ pairs.map Prod.fst

theorem get?_ofList (pairs : List (String × Rule)) (name : String) :
    (ofList pairs).get? name = lastRule? pairs name := by
  rw [ofList, get?_insertMany, get?_empty, Option.or_none, lastRule?]

theorem mem_names_ofList {pairs : List (String × Rule)} {name : String} :
    name ∈ (ofList pairs).names ↔ name ∈ pairs.map Prod.fst := by
  rw [mem_names, Option.isSome_iff_ne_none, get?_ofList_ne_none_iff]

theorem size_eq_card (schema : Schema) : schema.size = schema.names.toFinset.card := by
  rw [List.toFinset_card_of_nodup schema.nodup_names, length_names]

theorem isEmpty_iff_names {schema : Schema} : schema.isEmpty = true ↔ schema.names = [] := by
  rw [← List.isEmpty_iff]
  exact Bool.eq_iff_iff.mp Std.ExtTreeMap.isEmpty_keys.symm

theorem ascending_names (schema : Schema) : Text.Ascending schema.names :=
  schema.pairwise_names.imp fun h => Text.bytes_lt_bytes.mpr (Text.compare_eq_lt.mp h)

theorem records_ofList (pairs : List (String × Rule)) : (ofList pairs).Records pairs where
  get? := get?_ofList pairs
  replaced name _ := get?_ofList pairs name
  contains name := by
    rw [contains_eq_isSome, ← mem_names, mem_names_ofList]
  size := by
    have hsame : (ofList pairs).names.toFinset = (pairs.map Prod.fst).toFinset := by
      ext name
      rw [List.mem_toFinset, List.mem_toFinset, mem_names_ofList]
    rw [size_eq_card, hsame]
  isEmpty := by
    have hnames : (ofList pairs).names = [] ↔ pairs.map Prod.fst = [] := by
      simp only [List.eq_nil_iff_forall_not_mem, mem_names_ofList]
    rw [isEmpty_iff_names, hnames, List.map_eq_nil_iff]
  ascending := ascending_names _
  names _ := mem_names_ofList

/-! ## Schemas over each other -/

theorem overlay_assoc (lower middle upper : Schema) :
    (lower.overlay middle).overlay upper = lower.overlay (middle.overlay upper) := by
  apply ext_get?
  intro name
  simp only [get?_overlay, Option.or_assoc]

theorem overlay_self (schema : Schema) : schema.overlay schema = schema := by
  apply ext_get?
  intro name
  rw [get?_overlay, Option.or_self]

theorem empty_overlay (schema : Schema) : Schema.empty.overlay schema = schema := by
  apply ext_get?
  intro name
  rw [get?_overlay, get?_empty, Option.or_none]

theorem overlay_empty (schema : Schema) : schema.overlay .empty = schema := by
  apply ext_get?
  intro name
  rw [get?_overlay, get?_empty, Option.none_or]

/-- Schemas without a common name may change places. -/
theorem overlay_comm {lower upper : Schema} (h : lower.names.Disjoint upper.names) :
    lower.overlay upper = upper.overlay lower := by
  apply ext_get?
  intro name
  rw [get?_overlay, get?_overlay]
  cases hlower : lower.get? name with
  | none => rw [Option.none_or, Option.or_none]
  | some rule =>
    have hname : name ∉ upper.names := h (mem_names.mpr (hlower ▸ rfl))
    have hupper : upper.get? name = none := by
      rw [mem_names, Option.not_isSome_iff_eq_none] at hname
      exact hname
    rw [hupper, Option.none_or, Option.or_none]

/-- After any writes a schema is the map of the pairs that were written, whatever ways were taken.
Nothing but the rules tells two schemas apart, and overlays obey the laws of maps. -/
theorem records_writeAll :
    (∀ entries writes, ((ofList entries).writeAll writes).Records
      (entries ++ writes.flatMap Write.pairs)) ∧
    (∀ schema other : Schema, schema = other ↔ ∀ name, schema.get? name = other.get? name) ∧
    (∀ lower middle upper : Schema,
      (lower.overlay middle).overlay upper = lower.overlay (middle.overlay upper)) ∧
    (∀ schema : Schema, schema.overlay schema = schema ∧
      Schema.empty.overlay schema = schema ∧ schema.overlay .empty = schema) ∧
    ∀ lower upper : Schema, lower.names.Disjoint upper.names →
      lower.overlay upper = upper.overlay lower := by
  refine ⟨?_, ?_, overlay_assoc, ?_, fun _ _ => overlay_comm⟩
  · intro entries writes
    rw [ofList_writeAll]
    exact records_ofList _
  · intro schema other
    constructor
    · rintro rfl name
      rfl
    · exact ext_get?
  · intro schema
    exact ⟨overlay_self schema, empty_overlay schema, overlay_empty schema⟩

end Schema

end AuditSearch.Output
