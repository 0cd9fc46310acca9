import AuditSearch.Proofs.Expression.Chains
import AuditSearch.Proofs.Output.Requests

/-!
# Assignments that run one after the other

The assignments of a plan stand in one command, and the search service runs them from left to
right: each finds what those before it have written. Writing a plan does not look at this. If a
field is read after an assignment to it, the value that was in the record is gone, and the plan is
made all the same (`disturbed_type`).

`Reading.stage` is the list of assignments behind the texts. `Reading.Untangled` says of the rules
and the order of a request when no assignment reads what an earlier one has overwritten. Then every
requested field has the value that its own rule takes from the record, whatever else is asked for
(`undisturbed_iff_untangled`).
-/

namespace AuditSearch.Output

open Expression

/-- The fields that give the field `name` its value. Which ones an expression reads is not known. -/
def Rule.consults (rule : Rule) (name : String) : List String :=
  if rule.expression = none then rule.reads name else []

inductive Assignment where
  | field (name : String) (rule : Rule)
  | object (container : String) (members : List (String × Rule))
deriving DecidableEq, Repr

namespace Assignment

def target : Assignment → String
  | field name _ => name
  | object container _ => container

def reads : Assignment → List String
  | field name rule => rule.consults name
  | object _ members => members.flatMap fun member => member.2.consults member.1

def text : Assignment → String
  | field name rule => name ++ "=" ++ rule.memberValue name
  | object container members => container ++ "=" ++ ("json_object(" ++
      ",".intercalate (members.map fun member =>
        "\"" ++ member.1 ++ "\"" ++ "," ++ member.2.memberValue member.1) ++ ")")

end Assignment

/-- No assignment reads a field that an earlier one has overwritten. -/
def Undisturbed (stage : List Assignment) : Prop :=
  stage.Pairwise fun earlier later => earlier.target ∉ later.reads

instance (stage : List Assignment) : Decidable (Undisturbed stage) :=
  inferInstanceAs (Decidable (stage.Pairwise _))

namespace Reading

variable (reading : Reading)

/-- The assignments of the plain fields that are not copied. -/
def fieldAssignments : List Assignment :=
  (reading.plain.filter fun name => (reading.rule name).given? ≠ none).map fun name =>
    .field name (reading.rule name)

def objectAssignments : List Assignment :=
  reading.containers.map fun container => .object container
    ((Text.ascending (reading.members container)).map fun name => (name, reading.rule name))

def stage : List Assignment :=
  reading.fieldAssignments ++ reading.objectAssignments

/-- No field is read after an assignment to it: not by a plain field that comes later in the
request, not by a member of an object, and a container not by a member of an object that is
encountered later. -/
structure Untangled : Prop where
  plain : ∀ earlier later, [earlier, later].Sublist reading.plain →
    (reading.rule earlier).given? ≠ none → earlier ∉ (reading.rule later).consults later
  member : ∀ name ∈ reading.plain, (reading.rule name).given? ≠ none →
    ∀ container ∈ reading.containers, ∀ member ∈ reading.members container,
      name ∉ (reading.rule member).consults member
  container : ∀ earlier later, [earlier, later].Sublist reading.containers →
    ∀ member ∈ reading.members later, earlier ∉ (reading.rule member).consults member

variable {reading}

theorem member_eq_memberValue (name : String) :
    reading.member name = (reading.rule name).memberValue name := by
  rw [Rule.memberValue, value?_eq_given?]
  rfl

theorem filterMap_plainAssignment? (names : List String) :
    names.filterMap reading.plainAssignment? =
      (names.filter fun name => (reading.rule name).given? ≠ none).map fun name =>
        (Assignment.field name (reading.rule name)).text := by
  induction names with
  | nil => rfl
  | cons name rest ih =>
    rw [List.filterMap_cons, List.filter_cons, plainAssignment?]
    cases h : (reading.rule name).given? with
    | none => simpa [h] using ih
    | some value =>
      have htext : (Assignment.field name (reading.rule name)).text = name ++ "=" ++ value := by
        rw [Assignment.text, ← member_eq_memberValue, member, h]
        rfl
      simp [ih, htext]

/-- The texts of a plan are those of the assignments. -/
theorem assignments_plan : reading.plan.assignments = reading.stage.map Assignment.text := by
  unfold plan stage
  dsimp only
  rw [filterMap_plainAssignment?, List.map_append]
  unfold fieldAssignments objectAssignments object
  simp only [List.map_map, Function.comp_def, Assignment.text, member_eq_memberValue]

theorem given?_eq_none {rule : Rule} (h : rule.given? = none) :
    rule.expression = none ∧ rule.sources = [] := by
  unfold Rule.given? at h
  cases hexpression : rule.expression <;> cases hsources : rule.sources <;> simp_all

theorem reads_of_given?_eq_none {rule : Rule} (h : rule.given? = none) (name : String) :
    rule.reads name = [name] := by
  obtain ⟨hexpression, hsources⟩ := given?_eq_none h
  simp [Rule.reads, hexpression, hsources]

theorem reads_object (container : String) :
    (Assignment.object container
      ((Text.ascending (reading.members container)).map fun name =>
        (name, reading.rule name))).reads =
      (Text.ascending (reading.members container)).flatMap fun name =>
        (reading.rule name).consults name := by
  rw [Assignment.reads, List.flatMap_map]

/-! ## When nothing is disturbed -/

theorem undisturbed_fieldAssignments_iff (hnodup : reading.names.Nodup) :
    Undisturbed reading.fieldAssignments ↔
      ∀ earlier later, [earlier, later].Sublist reading.plain →
        (reading.rule earlier).given? ≠ none → earlier ∉ (reading.rule later).consults later := by
  unfold Undisturbed fieldAssignments
  rw [List.pairwise_map, List.pairwise_filter, List.pairwise_iff_forall_sublist]
  simp only [Assignment.target, Assignment.reads, decide_eq_true_eq]
  constructor
  · intro h earlier later hsublist hearlier
    by_cases hlater : (reading.rule later).given? = none
    · -- A copied field is not assigned, and it reads nothing but itself.
      have hpair : [earlier, later].Nodup := (hnodup.filter _).sublist hsublist
      rw [Rule.consults, if_pos (given?_eq_none hlater).1, reads_of_given?_eq_none hlater]
      exact (List.nodup_cons.mp hpair).1
    · exact h hsublist hearlier hlater
  · intro h earlier later hsublist hearlier _
    exact h earlier later hsublist hearlier

theorem undisturbed_objectAssignments_iff :
    Undisturbed reading.objectAssignments ↔
      ∀ earlier later, [earlier, later].Sublist reading.containers →
        ∀ member ∈ reading.members later, earlier ∉ (reading.rule member).consults member := by
  unfold Undisturbed objectAssignments
  rw [List.pairwise_map, List.pairwise_iff_forall_sublist]
  simp only [Assignment.target, reads_object, List.mem_flatMap, Text.mem_ascending, not_exists,
    not_and]

theorem undisturbed_stage_iff (hnodup : reading.names.Nodup) :
    Undisturbed reading.stage ↔ reading.Untangled := by
  have hacross : (∀ earlier ∈ reading.fieldAssignments, ∀ later ∈ reading.objectAssignments,
      earlier.target ∉ later.reads) ↔
      ∀ name ∈ reading.plain, (reading.rule name).given? ≠ none →
        ∀ container ∈ reading.containers, ∀ member ∈ reading.members container,
          name ∉ (reading.rule member).consults member := by
    unfold fieldAssignments objectAssignments
    simp only [List.forall_mem_map, List.mem_filter, decide_eq_true_eq, and_imp, reads_object,
      List.mem_flatMap, Text.mem_ascending, not_exists, not_and, Assignment.target]
  have hparts : Undisturbed reading.stage ↔ Undisturbed reading.fieldAssignments ∧
      Undisturbed reading.objectAssignments ∧
      ∀ earlier ∈ reading.fieldAssignments, ∀ later ∈ reading.objectAssignments,
        earlier.target ∉ later.reads := List.pairwise_append
  rw [hparts, undisturbed_fieldAssignments_iff hnodup, undisturbed_objectAssignments_iff, hacross]
  constructor
  · rintro ⟨hplain, hcontainer, hmember⟩
    exact ⟨hplain, hmember, hcontainer⟩
  · rintro ⟨hplain, hmember, hcontainer⟩
    exact ⟨hplain, hcontainer, hmember⟩

end Reading

/-! ## Running a stage -/

/-- What the search service makes of the parts of an assignment that are opaque here. A value that
is missing is null. -/
structure Service (V : Type) where
  /-- The value of an expression in a record. -/
  express : String → (String → Option V) → Option V
  /-- The object with these members. -/
  object : List (String × Option V) → Option V

section
variable {V : Type} (service : Service V)

/-- The value of the field `name`. Without an expression it is the first non-null value that
`record` has for the fields of the rule; an expression is computed in `state`. -/
def Rule.value (rule : Rule) (name : String) (record state : String → Option V) : Option V :=
  match rule.expression with
  | some expression => service.express expression state
  | none => (rule.reads name).findSome? record

namespace Assignment

def value (record state : String → Option V) : Assignment → Option V
  | field name rule => rule.value service name record state
  | object _ members => service.object (members.map fun member =>
      (member.1, member.2.value service member.1 record state))

/-- The record after the assignment. -/
def run (state : String → Option V) (assignment : Assignment) : String → Option V := fun name =>
  if name = assignment.target then assignment.value service state state else state name

def runAll (stage : List Assignment) (record : String → Option V) : String → Option V :=
  stage.foldl (run service) record

variable {service}

theorem runAll_of_not_mem {stage : List Assignment} {name : String}
    (h : name ∉ stage.map target) (record : String → Option V) :
    runAll service stage record name = record name := by
  induction stage generalizing record with
  | nil => rfl
  | cons assignment rest ih =>
    rw [List.map_cons, List.mem_cons, not_or] at h
    rw [runAll, List.foldl_cons]
    exact (ih h.2 _).trans (if_neg h.1)

end Assignment

/-- Without an expression, the text of a value is that of a chain, whose fields and whose value are
those of the rule. -/
theorem Rule.exists_chain {rule : Rule} (h : rule.expression = none) (name : String) :
    ∃ chain : Chain, rule.memberValue name = chain.text ∧ chain.names = rule.consults name ∧
      ∀ (V : Type) (service : Service V) (record state : String → Option V),
        rule.value service name record state = chain.value record := by
  have hchain : ∃ chain : Chain, rule.memberValue name = chain.text ∧
      chain.names = rule.reads name := by
    rw [Rule.memberValue, Rule.value?, Rule.reads, h]
    cases rule.sources with
    | nil => exact ⟨.field name, rfl, rfl⟩
    | cons source rest =>
      exact ⟨.ofNames source rest, (Chain.text_ofNames source rest).symm,
        Chain.names_ofNames source rest⟩
  obtain ⟨chain, htext, hnames⟩ := hchain
  refine ⟨chain, htext, hnames.trans (if_pos h).symm, ?_⟩
  intro V service record state
  rw [Rule.value, h, Chain.value_eq, hnames]

variable {service}

theorem findSome?_congr {α β : Type} {f g : α → Option β} {list : List α}
    (h : ∀ a ∈ list, f a = g a) : list.findSome? f = list.findSome? g := by
  induction list with
  | nil => rfl
  | cons a rest ih =>
    rw [List.forall_mem_cons] at h
    rw [List.findSome?_cons, List.findSome?_cons, h.1, ih h.2]

theorem Rule.value_congr {rule : Rule} {name : String} {record other : String → Option V}
    (h : ∀ field ∈ rule.consults name, record field = other field) (state : String → Option V) :
    rule.value service name record state = rule.value service name other state := by
  unfold Rule.value
  cases hexpression : rule.expression with
  | some expression => rfl
  | none =>
    rw [Rule.consults, if_pos hexpression] at h
    exact findSome?_congr h

namespace Assignment

theorem value_congr {assignment : Assignment} {record other : String → Option V}
    (h : ∀ field ∈ assignment.reads, record field = other field) (state : String → Option V) :
    assignment.value service record state = assignment.value service other state := by
  cases assignment with
  | field name rule => exact Rule.value_congr h state
  | object container members =>
    refine congrArg service.object (List.map_congr_left fun member hmember => ?_)
    have hmember' : ∀ field ∈ member.2.consults member.1, record field = other field :=
      fun field hfield => h field (List.mem_flatMap_of_mem hmember hfield)
    rw [Rule.value_congr hmember' state]

/-- In an undisturbed stage an assignment takes the values of fields from the record with which the
stage began. -/
theorem runAll_target {before after : List Assignment} {assignment : Assignment}
    (hundisturbed : Undisturbed (before ++ assignment :: after))
    (hnodup : ((before ++ assignment :: after).map target).Nodup) (record : String → Option V) :
    runAll service (before ++ assignment :: after) record assignment.target =
      assignment.value service record (runAll service before record) := by
  have hafter : assignment.target ∉ after.map target := by
    rw [List.map_append, List.map_cons] at hnodup
    exact (List.nodup_cons.mp hnodup.of_append_right).1
  have hbefore : ∀ field ∈ assignment.reads, field ∉ before.map target := by
    rintro field hfield htarget
    obtain ⟨earlier, hearlier, rfl⟩ := List.mem_map.mp htarget
    have hacross := (List.pairwise_append.mp hundisturbed).2.2
    exact hacross earlier hearlier assignment List.mem_cons_self hfield
  have hsplit : runAll service (before ++ assignment :: after) record =
      runAll service after (run service (runAll service before record) assignment) := by
    unfold runAll
    rw [List.foldl_append, List.foldl_cons]
  rw [hsplit, runAll_of_not_mem hafter, run, if_pos rfl]
  exact value_congr (fun field hfield => runAll_of_not_mem (hbefore field hfield) record) _

end Assignment

end

namespace Reading

variable (reading : Reading) {V : Type} (service : Service V)

/-- After the stage, every plain field and every member of an object has the value that its own
rule takes from `record`. Only an expression may see what was assigned before it. -/
structure OwnValues (record : String → Option V) : Prop where
  plain : ∀ name ∈ reading.plain, ∃ before, before <+: reading.stage ∧
    Assignment.runAll service reading.stage record name =
      (reading.rule name).value service name record (Assignment.runAll service before record)
  container : ∀ container ∈ reading.containers, ∃ before, before <+: reading.stage ∧
    Assignment.runAll service reading.stage record container =
      service.object ((Text.ascending (reading.members container)).map fun name =>
        (name, (reading.rule name).value service name record
          (Assignment.runAll service before record)))

variable {reading}

theorem map_target_stage : reading.stage.map Assignment.target =
    (reading.plain.filter fun name => (reading.rule name).given? ≠ none) ++ reading.containers := by
  unfold stage fieldAssignments objectAssignments
  rw [List.map_append, List.map_map, List.map_map]
  exact congrArg₂ (· ++ ·) (List.map_id _) (List.map_id _)

theorem nodup_targets (hnodup : reading.names.Nodup)
    (hplain : ∀ name ∈ reading.plain, name ∉ reading.containers) :
    (reading.stage.map Assignment.target).Nodup := by
  rw [map_target_stage]
  refine ((hnodup.filter _).filter _).append (nodup_eraseDups _) ?_
  intro name hname
  exact hplain name (List.mem_of_mem_filter hname)

theorem exists_value_of_mem {assignment : Assignment} (hassignment : assignment ∈ reading.stage)
    (hundisturbed : Undisturbed reading.stage)
    (hnodup : (reading.stage.map Assignment.target).Nodup) (record : String → Option V) :
    ∃ before, before <+: reading.stage ∧
      Assignment.runAll service reading.stage record assignment.target =
        assignment.value service record (Assignment.runAll service before record) := by
  obtain ⟨before, after, hsplit⟩ := List.append_of_mem hassignment
  refine ⟨before, ⟨assignment :: after, hsplit.symm⟩, ?_⟩
  rw [hsplit] at hundisturbed hnodup ⊢
  exact Assignment.runAll_target hundisturbed hnodup record

/-- A plain field gets the value of its rule, also if it is copied and not assigned. -/
theorem exists_value_plain (huntangled : reading.Untangled) (hnodup : reading.names.Nodup)
    (hplain : ∀ name ∈ reading.plain, name ∉ reading.containers) {name : String}
    (hname : name ∈ reading.plain) (record : String → Option V) :
    ∃ before, before <+: reading.stage ∧
      Assignment.runAll service reading.stage record name =
        (reading.rule name).value service name record
          (Assignment.runAll service before record) := by
  by_cases hgiven : (reading.rule name).given? = none
  · have hfree : name ∉ reading.stage.map Assignment.target := by
      rw [map_target_stage, List.mem_append, List.mem_filter]
      simpa [hgiven] using hplain name hname
    refine ⟨[], List.nil_prefix, ?_⟩
    rw [Assignment.runAll_of_not_mem hfree, Rule.value, (given?_eq_none hgiven).1,
      reads_of_given?_eq_none hgiven, List.findSome?_singleton]
  · have hmem : Assignment.field name (reading.rule name) ∈ reading.stage := by
      refine List.mem_append_left _ (List.mem_map_of_mem (List.mem_filter.mpr ⟨hname, ?_⟩))
      exact decide_eq_true hgiven
    exact exists_value_of_mem service hmem ((undisturbed_stage_iff hnodup).mpr huntangled)
      (nodup_targets hnodup hplain) record

theorem exists_value_container (huntangled : reading.Untangled) (hnodup : reading.names.Nodup)
    (hplain : ∀ name ∈ reading.plain, name ∉ reading.containers) {container : String}
    (hcontainer : container ∈ reading.containers) (record : String → Option V) :
    ∃ before, before <+: reading.stage ∧
      Assignment.runAll service reading.stage record container =
        service.object ((Text.ascending (reading.members container)).map fun name =>
          (name, (reading.rule name).value service name record
            (Assignment.runAll service before record))) := by
  have hmem : Assignment.object container ((Text.ascending (reading.members container)).map
      fun name => (name, reading.rule name)) ∈ reading.stage :=
    List.mem_append_right _ (List.mem_map_of_mem hcontainer)
  obtain ⟨before, hbefore, hvalue⟩ := exists_value_of_mem service hmem
    ((undisturbed_stage_iff hnodup).mpr huntangled) (nodup_targets hnodup hplain) record
  refine ⟨before, hbefore, hvalue.trans ?_⟩
  rw [Assignment.value, List.map_map]
  rfl

end Reading

namespace Schema

/-- The texts of a plan are those of its assignments, which read what their chains read. They do not
disturb each other exactly if the rules and the order of the request are untangled. Then, if no
plain field has the name of a container, every requested field has its own value, whatever else is
asked for. -/
theorem undisturbed_iff_untangled {schema : Schema} {request : List String} {plan : Plan}
    (h : schema.plan request = .ok plan) :
    plan.assignments = (schema.reading request).stage.map Assignment.text ∧
    (∀ name ∈ request, ((schema.reading request).rule name).expression = none →
      ∃ chain : Chain, ((schema.reading request).rule name).memberValue name = chain.text ∧
        chain.names = ((schema.reading request).rule name).consults name ∧
        ∀ (V : Type) (service : Service V) (record state : String → Option V),
          ((schema.reading request).rule name).value service name record state =
            chain.value record) ∧
    (Undisturbed (schema.reading request).stage ↔ (schema.reading request).Untangled) ∧
    ((schema.reading request).Untangled →
      (∀ name ∈ (schema.reading request).plain, name ∉ (schema.reading request).containers) →
      ∀ (V : Type) (service : Service V) (record : String → Option V),
        (schema.reading request).OwnValues service record) := by
  have hnodup : (schema.reading request).names.Nodup := nodup_eraseDups request
  refine ⟨?_, ?_, Reading.undisturbed_stage_iff hnodup, ?_⟩
  · rw [eq_reading_plan h]
    exact Reading.assignments_plan
  · intro name _ hexpression
    exact Rule.exists_chain hexpression name
  · intro huntangled hplain V service record
    constructor
    · intro name hname
      exact Reading.exists_value_plain service huntangled hnodup hplain hname record
    · intro container hcontainer
      exact Reading.exists_value_container service huntangled hnodup hplain hcontainer record

/-- A field that keeps what the record says about `type`, next to the constant of that name. -/
def originalType : Schema :=
  .ofList [("type", .ofExpression "\"track\""), ("type_original", .ofSources ["type"]),
    ("name", (Rule.ofSources ["objectRef.name"]).inside "properties")]

/-- As long as the field comes before the constant, it gets what it asks for. -/
theorem undisturbed_iff_untangled_original :
    let request := ["name", "type_original", "type"]
    let reading := originalType.reading request
    ∃ plan, originalType.plan request = .ok plan ∧
      plan.assignments = reading.stage.map Assignment.text ∧ reading.Untangled ∧
      (∀ name ∈ reading.plain, name ∉ reading.containers) ∧
      ∀ (service : Service String) (record : String → Option String),
        Assignment.runAll service reading.stage record "type_original" = record "type" := by
  intro request reading
  have hplan : originalType.plan request = .ok reading.plan := by decide +kernel
  have hplain : ∀ name ∈ reading.plain, name ∉ reading.containers := by decide +kernel
  have hundisturbed : Undisturbed reading.stage := by decide +kernel
  have hname : "type_original" ∈ reading.plain := by decide +kernel
  have hrule : reading.rule "type_original" = .ofSources ["type"] := by decide +kernel
  obtain ⟨htexts, -, hiff, hvalues⟩ := undisturbed_iff_untangled hplan
  have huntangled := hiff.mp hundisturbed
  refine ⟨reading.plan, hplan, htexts, huntangled, hplain, ?_⟩
  intro service record
  obtain ⟨before, -, hvalue⟩ :=
    (hvalues huntangled hplain String service record).plain "type_original" hname
  rw [hvalue, hrule]
  exact List.findSome?_singleton

/-- After the constant, the same field reads the constant, although no field has the name of a
container. -/
theorem disturbed_type :
    let request := ["type", "type_original"]
    let reading := originalType.reading request
    let service : Service String := ⟨fun expression _ => some expression, fun _ => none⟩
    (∃ plan, originalType.plan request = .ok plan ∧
      plan.assignments = ["type=\"track\"", "type_original='type'"]) ∧
    (∀ name ∈ reading.plain, name ∉ reading.containers) ∧
    ¬Undisturbed reading.stage ∧
    Assignment.runAll service reading.stage (fun _ => some "Event") "type_original" =
      some "\"track\"" := by
  intro request reading service
  refine ⟨⟨reading.plan, ?_, ?_⟩, ?_, ?_, ?_⟩
  all_goals decide +kernel

end Schema

end AuditSearch.Output
