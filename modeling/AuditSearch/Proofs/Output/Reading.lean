import AuditSearch.Output.Plan
import AuditSearch.Proofs.Expression.Chains
import AuditSearch.Proofs.Text.ByteOrder
import Mathlib.Data.List.Induction

/-!
# What a request comes to

A `Reading` is a list of names with their rules, and says without a loop what becomes of them:
which fields are cut to their first value, which containers there are and what is in them, which
assignments are made and which fields are kept. A pass over a request holds at every moment the
reading of the distinct names before it (`Reading.pass_concat`), so it ends with the reading of the
whole request or at the first name without a rule (`foldlM_next`), and the plan is that of the
reading (`Reading.plan_pass`).
-/

namespace AuditSearch.Output

open Expression

/-! ## Lists without repeats -/

theorem eraseDups_concat {α : Type} [BEq α] [LawfulBEq α] (names : List α) (name : α) :
    (names ++ [name]).eraseDups =
      if name ∈ names then names.eraseDups else names.eraseDups ++ [name] := by
  rw [List.eraseDups_append, List.cons_removeAll]
  by_cases h : name ∈ names
  · simp [h]
  · simp [h, List.eraseDups_cons]

theorem nodup_eraseDups {α : Type} [BEq α] [LawfulBEq α] (names : List α) :
    names.eraseDups.Nodup := by
  induction names using List.reverseRecOn with
  | nil => exact List.nodup_nil
  | append_singleton names name ih =>
    rw [eraseDups_concat]
    split_ifs with h
    · exact ih
    · refine ih.append (List.nodup_singleton name) ?_
      rw [List.disjoint_singleton]
      exact mt List.mem_eraseDups.mp h

theorem eraseDups_of_nodup {α : Type} [BEq α] [LawfulBEq α] {names : List α} (h : names.Nodup) :
    names.eraseDups = names := by
  induction names using List.reverseRecOn with
  | nil => rfl
  | append_singleton names name ih =>
    have hname : name ∉ names := by
      intro hmem
      exact List.disjoint_of_nodup_append h hmem List.mem_cons_self
    rw [eraseDups_concat, if_neg hname, ih h.of_append_left]

theorem eraseDups_subset {α : Type} [BEq α] [LawfulBEq α] {names more : List α}
    (h : names ⊆ more) : names.eraseDups ⊆ more.eraseDups := by
  intro name hname
  exact List.mem_eraseDups.mpr (h (List.mem_eraseDups.mp hname))

/-- The distinct members of two lists with the same members differ in their order. -/
theorem perm_eraseDups {α : Type} [BEq α] [LawfulBEq α] {names more : List α}
    (h : ∀ name, name ∈ names ↔ name ∈ more) : names.eraseDups.Perm more.eraseDups := by
  rw [List.perm_ext_iff_of_nodup (nodup_eraseDups names) (nodup_eraseDups more)]
  simpa only [List.mem_eraseDups] using h

/-- What is found in a list is found among its distinct members. -/
theorem find?_eraseDups {α : Type} [BEq α] [LawfulBEq α] (p : α → Bool) (names : List α) :
    names.eraseDups.find? p = names.find? p := by
  induction names using List.reverseRecOn with
  | nil => rfl
  | append_singleton names name ih =>
    rw [eraseDups_concat, List.find?_append]
    split_ifs with h
    · rw [ih]
      cases hfind : names.find? p with
      | some found => rfl
      | none => simp [List.find?_eq_none.mp hfind name h]
    · rw [List.find?_append, ih]

theorem appendNew_eraseDups (names : List String) (name : String) :
    Pass.appendNew names.eraseDups name = (names ++ [name]).eraseDups := by
  rw [eraseDups_concat, Pass.appendNew]
  simp only [List.mem_eraseDups]

theorem foldl_appendNew (names more : List String) :
    more.foldl Pass.appendNew names.eraseDups = (names ++ more).eraseDups := by
  induction more using List.reverseRecOn with
  | nil => rw [List.foldl_nil, List.append_nil]
  | append_singleton more name ih =>
    rw [List.foldl_append, ih, ← List.append_assoc]
    exact appendNew_eraseDups (names ++ more) name

/-! ## Readings -/

/-- What a rule gives: its expression, or else the chain of its sources. -/
def Rule.given? (rule : Rule) : Option String :=
  match rule.expression, rule.sources with
  | some expression, _ => some expression
  | none, [] => none
  | none, source :: rest => some (Chain.ofNames source rest).text

/-- The fields of the record that a field is made from: the sources if there are any, else the
field of the same name unless an expression is given. -/
def Rule.reads (rule : Rule) (name : String) : List String :=
  if rule.sources ≠ [] then rule.sources
  else if rule.expression = none then [name]
  else []

/-- Names in the order in which they were asked for, and the rule of each. -/
structure Reading where
  rule : String → Rule
  names : List String

namespace Reading

variable (reading : Reading)

/-- The fields to cut to their first value, in order of first use. -/
def firstValues : List String :=
  (reading.names.flatMap fun name => (reading.rule name).reads name).eraseDups

/-- The fields at the top level. -/
def plain : List String :=
  reading.names.filter fun name => (reading.rule name).container = none

/-- The containers, in order of first encounter. -/
def containers : List String :=
  (reading.names.filterMap fun name => (reading.rule name).container).eraseDups

/-- The fields that are placed in `container`. -/
def members (container : String) : List String :=
  reading.names.filter fun name => (reading.rule name).container = some container

/-- The assignment of the field `name` at the top level, if its rule gives anything. -/
def plainAssignment? (name : String) : Option String :=
  (reading.rule name).given?.map fun value => name ++ "=" ++ value

/-- The expression of the member `name` of an object. -/
def member (name : String) : String :=
  (reading.rule name).given?.getD ("'" ++ name ++ "'")

/-- The object with all fields that are placed in `container`, in ascending order. -/
def object (container : String) : String :=
  "json_object(" ++
    ",".intercalate ((Text.ascending (reading.members container)).map fun name =>
      "\"" ++ name ++ "\"" ++ "," ++ reading.member name) ++ ")"

/-- The plan for the names that were read. -/
def plan : Plan where
  firstValues := reading.firstValues
  assignments := reading.plain.filterMap reading.plainAssignment? ++
    reading.containers.map fun container => container ++ "=" ++ reading.object container
  selection := Text.ascending (reading.plain ++ reading.containers)

/-- What a pass holds after these names. -/
def pass : Pass where
  seen := reading.names
  firstValues := reading.firstValues
  plain := reading.plain.map fun name => (name, reading.rule name)
  objects := reading.containers.map fun container =>
    (container, (reading.members container).map fun name => (name, reading.rule name))

/-- The reading with one more name. -/
def concat (name : String) : Reading :=
  { reading with names := reading.names ++ [name] }

variable {reading}

theorem inputs_eq_reads (rule : Rule) (name : String) : rule.inputs name = rule.reads name := by
  unfold Rule.inputs Rule.reads
  cases rule.sources <;> cases rule.expression <;> simp

theorem value?_eq_given? (rule : Rule) : rule.value? = rule.given? := by
  unfold Rule.value? Rule.given?
  cases rule.expression with
  | some expression => rfl
  | none =>
    cases rule.sources with
    | nil => rfl
    | cons source rest => exact congrArg some (Chain.text_ofNames source rest).symm

/-! ## One name more -/

theorem firstValues_concat (name : String) :
    (reading.concat name).firstValues =
      ((reading.rule name).reads name).foldl Pass.appendNew reading.firstValues := by
  unfold firstValues
  rw [foldl_appendNew]
  simp only [concat, List.flatMap_append, List.flatMap_singleton]

theorem plain_concat (name : String) :
    (reading.concat name).plain =
      if (reading.rule name).container = none then reading.plain ++ [name] else reading.plain := by
  unfold plain concat
  rw [List.filter_append]
  split_ifs with h <;> simp [h]

theorem containers_concat (name : String) :
    (reading.concat name).containers =
      match (reading.rule name).container with
      | none => reading.containers
      | some container => Pass.appendNew reading.containers container := by
  unfold containers concat
  rw [List.filterMap_append]
  cases h : (reading.rule name).container with
  | none => simp [h]
  | some container =>
    dsimp only
    rw [appendNew_eraseDups]
    simp [h]

theorem members_concat (name container : String) :
    (reading.concat name).members container =
      if (reading.rule name).container = some container then reading.members container ++ [name]
      else reading.members container := by
  unfold members concat
  rw [List.filter_append]
  split_ifs with h <;> simp [h]

theorem mem_containers {container : String} :
    container ∈ reading.containers ↔
      ∃ name ∈ reading.names, (reading.rule name).container = some container := by
  simp [containers]

theorem members_eq_nil {container : String} (h : container ∉ reading.containers) :
    reading.members container = [] := by
  rw [mem_containers, not_exists] at h
  rw [members, List.filter_eq_nil_iff]
  intro name hname
  simpa using fun hc => h name ⟨hname, hc⟩

theorem appendNew_cons (container : String) (containers : List String) (name : String)
    (h : container ≠ name) :
    Pass.appendNew (container :: containers) name =
      container :: Pass.appendNew containers name := by
  unfold Pass.appendNew
  split_ifs with hcons hmem hmem
  · rfl
  · exact absurd (List.mem_of_ne_of_mem h.symm hcons) hmem
  · exact absurd (List.mem_cons_of_mem _ hmem) hcons
  · rfl

/-- A member goes to the object of its container, which is opened if it has no members yet. -/
theorem addMember_map (containers : List String) (f : String → List (String × Rule))
    (container : String) (member : String × Rule) (hnodup : containers.Nodup)
    (hnew : container ∉ containers → f container = []) :
    Pass.addMember (containers.map fun c => (c, f c)) container member =
      (Pass.appendNew containers container).map fun c =>
        (c, if c = container then f c ++ [member] else f c) := by
  induction containers with
  | nil =>
    have hf : f container = [] := hnew List.not_mem_nil
    simp [Pass.addMember, Pass.appendNew, hf]
  | cons c rest ih =>
    rw [List.nodup_cons] at hnodup
    rw [List.map_cons, Pass.addMember]
    by_cases h : c = container
    · subst h
      have hrest : rest.map (fun d => (d, if d = c then f d ++ [member] else f d)) =
          rest.map fun d => (d, f d) := by
        refine List.map_congr_left fun d hd => ?_
        rw [if_neg (ne_of_mem_of_not_mem hd hnodup.1)]
      rw [if_pos rfl, Pass.appendNew, if_pos List.mem_cons_self, List.map_cons, if_pos rfl, hrest]
    · have hnew' : container ∉ rest → f container = [] := by
        intro hmem
        exact hnew (List.not_mem_cons_of_ne_of_not_mem (Ne.symm h) hmem)
      rw [if_neg h, ih hnodup.2 hnew', appendNew_cons _ _ _ h, List.map_cons, if_neg h]

theorem pass_concat (name : String) :
    (reading.concat name).pass = reading.pass.add name (reading.rule name) := by
  unfold Pass.add
  cases h : (reading.rule name).container with
  | none =>
    have hplain : (reading.concat name).plain = reading.plain ++ [name] := by
      rw [plain_concat, if_pos h]
    have hcontainers : (reading.concat name).containers = reading.containers := by
      rw [containers_concat, h]
    have hmembers : (reading.concat name).members = reading.members := by
      funext c
      rw [members_concat, if_neg (by simp [h])]
    simp only [pass, hplain, hcontainers, hmembers, firstValues_concat, inputs_eq_reads,
      List.map_append]
    rfl
  | some container =>
    have hplain : (reading.concat name).plain = reading.plain := by
      rw [plain_concat, if_neg (by simp [h])]
    have hcontainers : (reading.concat name).containers =
        Pass.appendNew reading.containers container := by
      rw [containers_concat, h]
    have hobjects := addMember_map reading.containers
      (fun c => (reading.members c).map fun n => (n, reading.rule n)) container
      (name, reading.rule name) (nodup_eraseDups _) (fun hc => by simp [members_eq_nil hc])
    simp only [pass, hplain, hcontainers, firstValues_concat, inputs_eq_reads, hobjects]
    congr 1
    refine List.map_congr_left fun c _ => ?_
    rw [members_concat, h]
    by_cases hc : c = container
    · subst hc
      simp [concat]
    · simp [hc, Ne.symm hc, concat]

/-! ## A whole request -/

theorem sortMembers_map (names : List String) (f : String → String) (h : names.Nodup) :
    sortMembers (names.map fun name => (name, f name)) =
      (Text.ascending names).map fun name => (name, f name) := by
  rw [← Text.mergeSort_eq_ascending h, sortMembers]
  exact (List.map_mergeSort (f := fun name => (name, f name)) fun a _ b _ => rfl).symm

theorem objectAssignment_eq (container : String) (hnodup : reading.names.Nodup) :
    Pass.objectAssignment container
        ((reading.members container).map fun name => (name, reading.rule name)) =
      container ++ "=" ++ reading.object container := by
  have hmembers : (reading.members container).Nodup := hnodup.filter _
  have hvalue : ∀ name, (reading.rule name).memberValue name = reading.member name := by
    intro name
    rw [Rule.memberValue, value?_eq_given?]
    rfl
  unfold Pass.objectAssignment jsonObject
  simp only [List.map_map, Function.comp_def, hvalue]
  rw [sortMembers_map _ _ hmembers]
  simp only [List.map_map, Function.comp_def]
  rfl

theorem plan_pass (hnodup : reading.names.Nodup) : reading.pass.plan = reading.plan := by
  have hplain : ∀ name,
      Pass.plainAssignment? name (reading.rule name) = reading.plainAssignment? name := by
    intro name
    rw [Pass.plainAssignment?, value?_eq_given?]
    rfl
  unfold Pass.plan plan
  simp only [pass, List.filterMap_map, List.map_map, Function.comp_def, hplain,
    objectAssignment_eq _ hnodup, List.map_id']

end Reading

namespace Schema

/-- The reading of a request: its distinct names in order of first occurrence. -/
def reading (schema : Schema) (request : List String) : Reading where
  rule name := (schema.get? name).getD .copy
  names := request.eraseDups

/-- The first requested name without a rule. -/
def missing? (schema : Schema) (request : List String) : Option String :=
  request.find? fun name => (schema.get? name).isNone

variable {schema : Schema}

theorem missing?_eq_none {request : List String} :
    schema.missing? request = none ↔ ∀ name ∈ request, schema.get? name ≠ none := by
  simp [missing?, List.find?_eq_none]

theorem missing?_singleton (name : String) :
    schema.missing? [name] = if schema.get? name = none then some name else none := by
  simp [missing?, List.find?_singleton]

theorem missing?_append (request more : List String) :
    schema.missing? (request ++ more) = (schema.missing? request).or (schema.missing? more) :=
  List.find?_append

theorem reading_concat (request : List String) (name : String) :
    schema.reading (request ++ [name]) =
      if name ∈ request then schema.reading request else (schema.reading request).concat name := by
  unfold reading
  rw [eraseDups_concat]
  split_ifs <;> rfl

theorem next_reading {request : List String} (h : schema.missing? request = none)
    (name : String) :
    Pass.next schema (schema.reading request).pass name =
      match schema.missing? [name] with
      | some name => .error (.unknownField name)
      | none => .ok (schema.reading (request ++ [name])).pass := by
  have hseen : name ∈ (schema.reading request).pass.seen ↔ name ∈ request := List.mem_eraseDups
  unfold Pass.next
  rw [reading_concat, missing?_singleton]
  by_cases hname : name ∈ request
  · have hget := missing?_eq_none.mp h name hname
    rw [if_pos (hseen.mpr hname), if_pos hname, if_neg hget]
  · rw [if_neg (mt hseen.mp hname), if_neg hname]
    cases hget : schema.get? name with
    | none => rfl
    | some rule =>
      have hrule : (schema.reading request).rule name = rule := by
        simp only [reading, hget, Option.getD_some]
      dsimp only
      rw [Reading.pass_concat, hrule, if_neg (Option.some_ne_none rule)]

/-- A pass ends with the reading of the request, or at the first name without a rule. -/
theorem foldlM_next (request : List String) :
    request.foldlM (Pass.next schema) {} =
      match schema.missing? request with
      | some name => .error (.unknownField name)
      | none => .ok (schema.reading request).pass := by
  induction request using List.reverseRecOn with
  | nil => rfl
  | append_singleton request name ih =>
    rw [List.foldlM_append, ih, missing?_append]
    cases h : schema.missing? request with
    | some found => rfl
    | none =>
      rw [Option.none_or, ← next_reading h name]
      exact bind_pure (Pass.next schema (schema.reading request).pass name)

theorem plan_eq_match (request : List String) :
    schema.plan request =
      match schema.missing? request with
      | some name => .error (.unknownField name)
      | none => .ok (schema.reading request).plan := by
  unfold plan
  rw [foldlM_next]
  cases schema.missing? request with
  | some name => rfl
  | none =>
    have hnodup : (schema.reading request).names.Nodup := nodup_eraseDups request
    exact congrArg Except.ok (Reading.plan_pass hnodup)

theorem exists_plan_iff {request : List String} :
    (∃ plan, schema.plan request = .ok plan) ↔ ∀ name ∈ request, schema.get? name ≠ none := by
  rw [← missing?_eq_none, plan_eq_match]
  cases schema.missing? request <;> simp

/-- A request comes to the plan of its reading, or to the first of its names without a rule. The
lists that a reading sorts are in strictly ascending order of their bytes. -/
theorem plan_eq_plan_reading (schema : Schema) (request : List String) :
    (schema.plan request =
      match request.eraseDups.find? fun name => (schema.get? name).isNone with
      | some name => .error (.unknownField name)
      | none => .ok (schema.reading request).plan) ∧
    ∀ names, Text.Ascending (Text.ascending names) ∧
      ∀ name, name ∈ Text.ascending names ↔ name ∈ names := by
  refine ⟨?_, fun names => ⟨Text.ascending_ascending names, fun name => Text.mem_ascending⟩⟩
  rw [find?_eraseDups]
  exact plan_eq_match request

end Schema

end AuditSearch.Output
