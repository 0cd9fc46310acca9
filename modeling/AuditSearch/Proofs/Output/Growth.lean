import AuditSearch.Proofs.Output.Stage

/-!
# Asking for more

A request that names more fields changes nothing about those that were asked for before. What a
reading makes of a name depends on its rule alone, so every list in a plan grows with the names
(`Reading.kept`). The lists differ in what they keep of an order: plain fields stand in the order of
the request, the members of an object in the order of their names, and the fields that are cut and
the containers in the order in which they are met, which other names can change. For the same names
in another order only the order of these lists changes (`Reading.assignments_perm`).
-/

namespace AuditSearch.Output

/-! ## Readings of more names -/

namespace Reading

/-- What is left of a plan when more is asked for. -/
structure Kept (reading more : Reading) (plan morePlan : Plan) : Prop where
  assignments : plan.assignments = reading.fieldAssignments.map Assignment.text ++
    reading.objectAssignments.map Assignment.text
  moreAssignments : morePlan.assignments = more.fieldAssignments.map Assignment.text ++
    more.objectAssignments.map Assignment.text
  selection : plan.selection ⊆ morePlan.selection
  firstValues : plan.firstValues ⊆ morePlan.firstValues
  fields : reading.fieldAssignments ⊆ more.fieldAssignments
  /-- Each container has one object, to which members may come but none is changed or moved. -/
  objects : ∀ container ∈ reading.containers, ∃ members moreMembers,
    (reading.objectAssignments.filter fun object => object.target = container) =
      [.object container members] ∧
    (more.objectAssignments.filter fun object => object.target = container) =
      [.object container moreMembers] ∧
    members.Sublist moreMembers

variable {rule : String → Rule} {names more : List String}

theorem plain_subset (h : names ⊆ more) : (mk rule names).plain ⊆ (mk rule more).plain :=
  List.filter_subset _ h

theorem members_subset (h : names ⊆ more) (container : String) :
    (mk rule names).members container ⊆ (mk rule more).members container :=
  List.filter_subset _ h

theorem containers_subset (h : names ⊆ more) :
    (mk rule names).containers ⊆ (mk rule more).containers :=
  eraseDups_subset (List.filterMap_subset _ h)

theorem firstValues_subset (h : names ⊆ more) :
    (mk rule names).firstValues ⊆ (mk rule more).firstValues := by
  refine eraseDups_subset fun field hfield => ?_
  obtain ⟨name, hname, hreads⟩ := List.mem_flatMap.mp hfield
  exact List.mem_flatMap.mpr ⟨name, h hname, hreads⟩

theorem selection_subset (h : names ⊆ more) :
    (mk rule names).plan.selection ⊆ (mk rule more).plan.selection := by
  intro name hname
  have hkept := List.mem_append.mp (Text.mem_ascending.mp hname)
  exact Text.mem_ascending.mpr (List.mem_append.mpr
    (hkept.imp (fun hplain => plain_subset h hplain) (fun hobject => containers_subset h hobject)))

theorem fieldAssignments_subset (h : names ⊆ more) :
    (mk rule names).fieldAssignments ⊆ (mk rule more).fieldAssignments :=
  List.map_subset _ (List.filter_subset _ (plain_subset h))

theorem fieldAssignments_sublist (h : names.Sublist more) :
    (mk rule names).fieldAssignments.Sublist (mk rule more).fieldAssignments :=
  ((h.filter _).filter _).map _

theorem filter_objectAssignments {reading : Reading} {container : String}
    (h : container ∈ reading.containers) :
    (reading.objectAssignments.filter fun object => object.target = container) =
      [.object container ((Text.ascending (reading.members container)).map fun name =>
        (name, reading.rule name))] := by
  have hnodup : reading.containers.Nodup := nodup_eraseDups _
  have hfilter : (reading.containers.filter fun name => name = container) = [container] := by
    rw [List.filter_eq, List.count_eq_one_of_mem hnodup h, List.replicate_one]
  rw [objectAssignments, List.filter_map]
  exact congrArg (List.map _) hfilter

theorem kept (h : names ⊆ more) :
    Kept (mk rule names) (mk rule more) (mk rule names).plan (mk rule more).plan where
  assignments := by rw [assignments_plan, stage, List.map_append]
  moreAssignments := by rw [assignments_plan, stage, List.map_append]
  selection := selection_subset h
  firstValues := firstValues_subset h
  fields := fieldAssignments_subset h
  objects container hcontainer :=
    ⟨_, _, filter_objectAssignments hcontainer,
      filter_objectAssignments (containers_subset h hcontainer),
      (Text.ascending_sublist (members_subset h container)).map _⟩

/-! ## Readings of the same names in another order -/

theorem containers_perm (h : names.Perm more) :
    (mk rule names).containers.Perm (mk rule more).containers :=
  perm_eraseDups fun _ => (h.filterMap _).mem_iff

theorem firstValues_perm (h : names.Perm more) :
    (mk rule names).firstValues.Perm (mk rule more).firstValues :=
  perm_eraseDups fun _ => (h.flatMap_right _).mem_iff

theorem objectAssignments_perm (h : names.Perm more) :
    (mk rule names).objectAssignments.Perm (mk rule more).objectAssignments := by
  have hmembers : ∀ container, Text.ascending ((mk rule names).members container) =
      Text.ascending ((mk rule more).members container) :=
    fun container => Text.ascending_congr fun _ => (h.filter _).mem_iff
  unfold objectAssignments
  simp only [hmembers]
  exact (containers_perm h).map _

theorem assignments_perm (h : names.Perm more) :
    (mk rule names).plan.assignments.Perm (mk rule more).plan.assignments := by
  have hfields : (mk rule names).fieldAssignments.Perm (mk rule more).fieldAssignments :=
    ((h.filter _).filter _).map _
  rw [assignments_plan, assignments_plan]
  exact (hfields.append (objectAssignments_perm h)).map _

end Reading

namespace Schema

/-- If there is a plan for more names, there is one for fewer, and everything in it is kept. Plain
assignments keep their order if names are only inserted. For the same names the plans differ in
the order of fields that are cut and of assignments. -/
theorem plan_of_subset {schema : Schema} {request more : List String} {morePlan : Plan}
    (h : request ⊆ more) (hmore : schema.plan more = .ok morePlan) :
    ∃ plan, schema.plan request = .ok plan ∧
      Reading.Kept (schema.reading request) (schema.reading more) plan morePlan ∧
      (request.Sublist more → more.Nodup → (schema.reading request).fieldAssignments.Sublist
        (schema.reading more).fieldAssignments) ∧
      (more ⊆ request → plan.selection = morePlan.selection ∧
        plan.firstValues.Perm morePlan.firstValues ∧
        plan.assignments.Perm morePlan.assignments) := by
  have hrules := exists_plan_iff.mp ⟨morePlan, hmore⟩
  obtain ⟨plan, hplan⟩ := exists_plan_iff.mpr fun name hname => hrules name (h hname)
  refine ⟨plan, hplan, ?_, ?_, ?_⟩
  · rw [eq_reading_plan hplan, eq_reading_plan hmore]
    exact Reading.kept (eraseDups_subset h)
  · intro hsublist hnodup
    have hnames : request.eraseDups.Sublist more.eraseDups := by
      rwa [eraseDups_of_nodup hnodup, eraseDups_of_nodup (hnodup.sublist hsublist)]
    exact Reading.fieldAssignments_sublist hnames
  · intro hless
    have hmem : ∀ name, name ∈ request ↔ name ∈ more :=
      fun name => ⟨fun hname => h hname, fun hname => hless hname⟩
    have hselection := selection_congr hplan hmore hmem
    rw [eq_reading_plan hplan, eq_reading_plan hmore] at hselection ⊢
    exact ⟨hselection, Reading.firstValues_perm (perm_eraseDups hmem),
      Reading.assignments_perm (perm_eraseDups hmem)⟩

/-- A shared source is cut where it is met first, which is another place when more is asked for. -/
theorem plan_of_subset_shared :
    let schema : Schema := .ofList [
      ("user", .ofSources ["impersonatedUser.username", "user.username"]),
      ("login", .ofSources ["user.username"]),
      ("name", (Rule.ofSources ["objectRef.name"]).inside "properties"),
      ("kind", (Rule.ofSources ["objectRef.resource"]).inside "properties")]
    let request := ["user", "name"]
    let more := ["login", "user", "name", "kind"]
    ∃ plan morePlan reversed, schema.plan request = .ok plan ∧ schema.plan more = .ok morePlan ∧
      schema.plan more.reverse = .ok reversed ∧
      plan.firstValues = ["impersonatedUser.username", "user.username", "objectRef.name"] ∧
      morePlan.firstValues =
        ["user.username", "impersonatedUser.username", "objectRef.name", "objectRef.resource"] ∧
      Reading.Kept (schema.reading request) (schema.reading more) plan morePlan ∧
      (schema.reading request).fieldAssignments.Sublist
        (schema.reading more).fieldAssignments ∧
      reversed.selection = morePlan.selection ∧
      reversed.firstValues.Perm morePlan.firstValues ∧
      reversed.assignments.Perm morePlan.assignments := by
  intro schema request more
  have hrules : ∀ name ∈ more, schema.get? name ≠ none := by decide +kernel
  have hfirst : (schema.reading request).plan.firstValues =
      ["impersonatedUser.username", "user.username", "objectRef.name"] := by decide +kernel
  have hmoreFirst : (schema.reading more).plan.firstValues =
      ["user.username", "impersonatedUser.username", "objectRef.name", "objectRef.resource"] := by
    decide +kernel
  obtain ⟨morePlan, hmore⟩ := exists_plan_iff.mpr hrules
  obtain ⟨plan, hplan, hkept, hordered, -⟩ :=
    plan_of_subset (show request ⊆ more by decide) hmore
  obtain ⟨reversed, hreversed, -, -, hsame⟩ :=
    plan_of_subset (show more.reverse ⊆ more by decide) hmore
  rw [← eq_reading_plan hplan] at hfirst
  rw [← eq_reading_plan hmore] at hmoreFirst
  exact ⟨plan, morePlan, reversed, hplan, hmore, hreversed, hfirst, hmoreFirst, hkept,
    hordered (by decide) (by decide), hsame (by decide)⟩

end Schema

end AuditSearch.Output
