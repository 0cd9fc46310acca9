import AuditSearch.Proofs.Journey.Coverage
import AuditSearch.Proofs.Query.Commands

/-!
# The characters of the queries of the catalog

A query lacks a character if its index, its clauses and the rules of its registry lack it
(`Start.lacks_run`). No clause of the catalog holds a NUL character, so an entry that is written
over an index and a registry without one has none either (`Entry.lacks_query`).
-/

namespace AuditSearch.Output

/-- The character occurs in no rule. -/
def Schema.Lacks (sep : Char) (schema : Schema) : Prop :=
  ∀ name, ∀ rule ∈ schema.get? name, rule.Lacks sep

theorem Schema.lacks_iff_toList {sep : Char} {schema : Schema} :
    schema.Lacks sep ↔ ∀ entry ∈ schema.toList, entry.2.Lacks sep := by
  have hmem : ∀ name rule, (name, rule) ∈ schema.toList ↔ schema.get? name = some rule :=
    fun _ _ => Std.ExtTreeMap.mem_toList_iff_getElem?_eq_some
  constructor
  · intro h entry hentry
    exact h entry.1 entry.2 ((hmem entry.1 entry.2).mp hentry)
  · intro h name rule hrule
    exact h (name, rule) ((hmem name rule).mpr hrule)

instance (sep : Char) (schema : Schema) : Decidable (schema.Lacks sep) :=
  decidable_of_iff _ Schema.lacks_iff_toList.symm

end AuditSearch.Output

namespace AuditSearch.Audit

open Output

/-- The character occurs neither in the group nor in the resource. -/
def GroupResource.Lacks (sep : Char) (api : GroupResource) : Prop :=
  Text.Lacks sep api.group ∧ Text.Lacks sep api.resource

instance (sep : Char) (api : GroupResource) : Decidable (api.Lacks sep) :=
  inferInstanceAs (Decidable (Text.Lacks sep api.group ∧ Text.Lacks sep api.resource))

theorem GroupResource.lacks_any (sep : Char) : any.Lacks sep :=
  ⟨List.not_mem_nil, List.not_mem_nil⟩

/-- The character occurs in no rule of any entry. -/
def Registry.Lacks (sep : Char) (registry : Registry) : Prop :=
  ∀ api, ∀ schema ∈ registry.get? api, schema.Lacks sep

theorem Registry.lacks_iff_toList {sep : Char} {registry : Registry} :
    registry.Lacks sep ↔ ∀ entry ∈ registry.entries.toList, entry.2.Lacks sep := by
  have hmem : ∀ api schema,
      (api, schema) ∈ registry.entries.toList ↔ registry.get? api = some schema :=
    fun _ _ => Std.ExtTreeMap.mem_toList_iff_getElem?_eq_some
  constructor
  · intro h entry hentry
    exact h entry.1 entry.2 ((hmem entry.1 entry.2).mp hentry)
  · intro h api schema hschema
    exact h (api, schema) ((hmem api schema).mpr hschema)

instance (sep : Char) (registry : Registry) : Decidable (registry.Lacks sep) :=
  decidable_of_iff _ Registry.lacks_iff_toList.symm

theorem Registry.Lacks.rule {sep : Char} {registry : Registry} (h : registry.Lacks sep)
    (name : String) (api : GroupResource) : ∀ rule ∈ registry.rule? name api, rule.Lacks sep := by
  have hentry : ∀ target, ∀ rule ∈ registry.entryRule? name target, rule.Lacks sep := by
    intro target rule hrule
    obtain ⟨schema, hschema, hget⟩ := Option.bind_eq_some_iff.mp hrule
    exact h target schema hschema name rule hget
  intro rule hrule
  rcases Option.or_eq_some_iff.mp hrule with hown | ⟨-, hcommon⟩
  · split_ifs at hown
    exact hentry api rule hown
  · exact hentry .any rule hcommon

end AuditSearch.Audit

namespace AuditSearch.Query

open Audit Output

/-- The character occurs nowhere in the clause. -/
def Clause.Lacks (sep : Char) : Clause → Prop
  | .api target => target.Lacks sep
  | .predicate text => Text.Lacks sep text
  | .commands texts => ∀ text ∈ texts, Text.Lacks sep text
  | .filter added => (∀ command ∈ added.commands, Text.Lacks sep command) ∧ added.schema.Lacks sep
  | .fields names => ∀ name ∈ names, Text.Lacks sep name
  | .event expression => Text.Lacks sep "event" ∧ Text.Lacks sep expression

instance (sep : Char) : (clause : Clause) → Decidable (clause.Lacks sep)
  | .api target => inferInstanceAs (Decidable (target.Lacks sep))
  | .predicate text => inferInstanceAs (Decidable (Text.Lacks sep text))
  | .commands texts => inferInstanceAs (Decidable (∀ text ∈ texts, Text.Lacks sep text))
  | .filter added =>
    inferInstanceAs (Decidable
      ((∀ command ∈ added.commands, Text.Lacks sep command) ∧ added.schema.Lacks sep))
  | .fields names => inferInstanceAs (Decidable (∀ name ∈ names, Text.Lacks sep name))
  | .event expression =>
    inferInstanceAs (Decidable (Text.Lacks sep "event" ∧ Text.Lacks sep expression))

section
variable {sep : Char}

theorem Clause.Lacks.api {clause : Clause} (h : clause.Lacks sep) :
    ∀ target ∈ clause.api?, target.Lacks sep := by
  cases clause with
  | api target =>
    rintro _ ⟨⟩
    exact h
  | _ => exact nofun

theorem Clause.Lacks.predicate {clause : Clause} (h : clause.Lacks sep) :
    ∀ text ∈ clause.predicate?, Text.Lacks sep text := by
  cases clause with
  | predicate text =>
    rintro _ ⟨⟩
    exact h
  | _ => exact nofun

theorem Clause.Lacks.brought {clause : Clause} (h : clause.Lacks sep) :
    ∀ command ∈ clause.brought, Text.Lacks sep command := by
  cases clause with
  | commands texts => exact h
  | filter added => exact h.1
  | _ => exact List.forall_mem_nil _

theorem Clause.Lacks.asked {clause : Clause} (h : clause.Lacks sep) :
    ∀ name ∈ clause.asked, Text.Lacks sep name := by
  cases clause with
  | fields names => exact h
  | event expression => exact List.forall_mem_singleton.mpr h.1
  | _ => exact List.forall_mem_nil _

theorem Clause.Lacks.supplied {clause : Clause} (h : clause.Lacks sep) (name : String) :
    ∀ rule ∈ clause.supplied? name, rule.Lacks sep := by
  cases clause with
  | filter added => exact h.2 name
  | event expression =>
    intro rule hrule
    unfold Clause.supplied? at hrule
    split_ifs at hrule
    · obtain rfl := Option.some.inj hrule
      have hexpression : ∀ value ∈ some expression, Text.Lacks sep value := by
        rintro value ⟨⟩
        exact h.2
      exact ⟨List.forall_mem_nil _, hexpression, nofun⟩
    · exact nomatch hrule
  | _ => exact nofun

theorem lacks_lastApi {clauses : List Clause} (h : ∀ clause ∈ clauses, clause.Lacks sep) :
    (lastApi clauses).Lacks sep :=
  forall_lastGiven?_getD (GroupResource.lacks_any sep) fun clause hclause => (h clause hclause).api

theorem lacks_lastPredicate {clauses : List Clause} (h : ∀ clause ∈ clauses, clause.Lacks sep) :
    Text.Lacks sep (lastPredicate clauses) :=
  forall_lastGiven?_getD List.not_mem_nil fun clause hclause => (h clause hclause).predicate

theorem Start.lacks_run {start : Start} {index : String} {clauses : List Clause}
    (hindex : Text.Lacks sep index) (hregistry : start.registry.Lacks sep)
    (hfields : ∀ name ∈ start.fields, Text.Lacks sep name)
    (h : ∀ clause ∈ clauses, clause.Lacks sep) : (start.run index clauses).Lacks sep where
  index := by rwa [Start.index_run]
  group := by rw [Start.api_run]; exact (lacks_lastApi h).1
  resource := by rw [Start.api_run]; exact (lacks_lastApi h).2
  predicate := by rw [Start.predicate_run]; exact lacks_lastPredicate h
  commands := by
    rw [Start.commands_run, List.forall_mem_flatMap]
    exact fun clause hclause => (h clause hclause).brought
  names := by
    rw [Start.requested_run, List.forall_mem_append, List.forall_mem_flatMap]
    exact ⟨hfields, fun clause hclause => (h clause hclause).asked⟩
  rules := by
    intro name _ rule hrule
    rw [get?_schema_eq_or] at hrule
    rcases Option.or_eq_some_iff.mp hrule with hsupplied | ⟨-, hknown⟩
    · obtain ⟨clause, hclause, hgiven⟩ := exists_of_lastGiven?_eq_some hsupplied
      exact (h clause hclause).supplied name rule hgiven
    · exact hregistry.rule name _ rule hknown

end

end AuditSearch.Query

namespace AuditSearch.Journey

open Audit Query

theorem lacks_commonFields : ∀ name ∈ commonFields, Text.Lacks '\x00' name := by
  decide

theorem lacks_clauses : ∀ entry ∈ catalog, ∀ clause ∈ entry.clauses, clause.Lacks '\x00' := by
  decide +kernel

theorem Entry.lacks_query {entry : Entry} (hentry : entry ∈ catalog) {index : String}
    (hindex : Text.Lacks '\x00' index) {registry : Registry} (hregistry : registry.Lacks '\x00') :
    (entry.query index registry).Lacks '\x00' := by
  rw [query_eq_run]
  exact Start.lacks_run hindex hregistry lacks_commonFields (lacks_clauses entry hentry)

end AuditSearch.Journey
