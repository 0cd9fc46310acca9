import AuditSearch.Proofs.Audit.Layers
import AuditSearch.Proofs.Expression.Literals
import AuditSearch.Proofs.Query.Narrowing
import Mathlib.Data.List.Basic

/-!
# What the commands of a status condition tell about it

A condition is made by settings, of which each replaces one or more of its parts. The last setting of
a part counts (`setAll_eq`), so settings of different parts may change places. The commands of a
condition tell all of its parts, if the texts in them can be told from what stands around them
(`commands_eq_iff`): the index field ends at the first equals sign, and a value in a list ends at the
next quote. The pattern for the message stands last and may hold anything.
-/

namespace AuditSearch.Query.StatusCondition

open Audit Expression Output Text

/-! ## Settings -/

/-- A part of a condition that settings replace. -/
inductive Slot where
  | indexField | reasons | statuses | message
deriving DecidableEq, Repr

namespace Setting

def slots : Setting → List Slot
  | indexField _ => [.indexField]
  | reasons _ => [.reasons]
  | statuses _ => [.statuses]
  | message _ => [.message]
  | options _ _ _ => [.reasons, .statuses, .message]

def indexField? : Setting → Option String
  | indexField name => some name
  | _ => none

def reasons? : Setting → Option (List String)
  | reasons values => some values
  | options values _ _ => some values
  | _ => none

def statuses? : Setting → Option (List String)
  | statuses values => some values
  | options _ values _ => some values
  | _ => none

/-- No message is something that can be set, too. -/
def message? : Setting → Option (Option String)
  | message pattern => some (some pattern)
  | options _ _ pattern? => some pattern?
  | _ => none

end Setting

variable (condition : StatusCondition)

theorem setAll_eq (settings : List Setting) :
    condition.setAll settings =
      { kind := condition.kind
        indexField := (lastGiven? Setting.indexField? settings).getD condition.indexField
        reasons := (lastGiven? Setting.reasons? settings).getD condition.reasons
        statuses := (lastGiven? Setting.statuses? settings).getD condition.statuses
        message := (lastGiven? Setting.message? settings).getD condition.message } := by
  have hkind : (condition.setAll settings).kind = condition.kind :=
    foldl_kept (fun _ setting => by cases setting <;> rfl) condition settings
  have hindexField : (condition.setAll settings).indexField =
      (lastGiven? Setting.indexField? settings).getD condition.indexField :=
    foldl_lastGiven?_getD (fun _ setting => by cases setting <;> rfl) condition settings
  have hreasons : (condition.setAll settings).reasons =
      (lastGiven? Setting.reasons? settings).getD condition.reasons :=
    foldl_lastGiven?_getD (fun _ setting => by cases setting <;> rfl) condition settings
  have hstatuses : (condition.setAll settings).statuses =
      (lastGiven? Setting.statuses? settings).getD condition.statuses :=
    foldl_lastGiven?_getD (fun _ setting => by cases setting <;> rfl) condition settings
  have hmessage : (condition.setAll settings).message =
      (lastGiven? Setting.message? settings).getD condition.message :=
    foldl_lastGiven?_getD (fun _ setting => by cases setting <;> rfl) condition settings
  rw [← hkind, ← hindexField, ← hreasons, ← hstatuses, ← hmessage]

theorem set_set_comm {setting other : Setting} (h : setting.slots.Disjoint other.slots) :
    (condition.set setting).set other = (condition.set other).set setting := by
  -- Two settings either write different fields or have a part in common, which `h` excludes.
  cases setting <;> cases other <;> first | rfl | simp [Setting.slots] at h

theorem setAll_swap {setting other : Setting} (h : setting.slots.Disjoint other.slots)
    (before after : List Setting) :
    condition.setAll (before ++ setting :: other :: after) =
      condition.setAll (before ++ other :: setting :: after) := by
  unfold setAll
  rw [List.foldl_append, List.foldl_append]
  simp only [List.foldl_cons]
  rw [set_set_comm _ h]

/-! ## Reading the commands -/

section
variable {position rest more : String}

/-- What a check of `list` begins with. -/
def opening (list position : String) : String :=
  " AND " ++ valueAt list position

/-- An empty list is not checked. -/
@[simp]
theorem joined_oneOfChecks_nil (list : String) : Check.joined position (oneOfChecks list []) = "" :=
  rfl

theorem joined_oneOfChecks (list : String) {values : List String} (hne : values ≠ []) :
    Check.joined position (oneOfChecks list values) =
      opening list position ++ " IN (" ++ literalList values ++ ")" := by
  rw [oneOfChecks, if_neg hne, Check.joined, List.map_singleton, String.join_cons, String.join_nil,
    ← oneOf_eq_text, mvindex_eq_valueAt, opening]
  simp only [String.append_assoc, String.append_empty]

theorem joined_oneOfChecks_inj {list : String} {values others : List String}
    (h : ∀ value ∈ values, Lacks '"' value) (h' : ∀ value ∈ others, Lacks '"' value)
    (hrest : ∀ tail, rest ≠ opening list position ++ tail)
    (hmore : ∀ tail, more ≠ opening list position ++ tail)
    (heq : Check.joined position (oneOfChecks list values) ++ rest =
      Check.joined position (oneOfChecks list others) ++ more) :
    values = others ∧ rest = more := by
  -- Only the checks that come later could stand for a check of this list.
  by_cases hne : values = []
  · subst hne
    by_cases hne' : others = []
    · subst hne'
      exact ⟨rfl, (String.append_right_inj _).mp heq⟩
    · rw [joined_oneOfChecks_nil, String.empty_append, joined_oneOfChecks list hne'] at heq
      simp only [String.append_assoc] at heq
      exact absurd heq (hrest _)
  · by_cases hne' : others = []
    · subst hne'
      rw [joined_oneOfChecks_nil, String.empty_append, joined_oneOfChecks list hne] at heq
      simp only [String.append_assoc] at heq
      exact absurd heq.symm (hmore _)
    · rw [joined_oneOfChecks list hne, joined_oneOfChecks list hne'] at heq
      simp only [String.append_assoc, String.append_right_inj] at heq
      exact literalList_append_inj h h' heq

@[simp]
theorem joined_likeChecks_empty (list : String) : Check.joined position (likeChecks list "") = "" :=
  rfl

theorem joined_likeChecks (list : String) {pattern : String} (hne : pattern ≠ "") :
    Check.joined position (likeChecks list pattern) =
      " AND like(" ++ valueAt list position ++ ", \"" ++ pattern ++ "\")" := by
  rw [likeChecks, if_neg hne, Check.joined, List.map_singleton, String.join_cons, String.join_nil,
    Check.text, String.append_empty]
  have hopen : " AND like(" = " AND " ++ "like(" := rfl
  simp only [hopen, String.append_assoc]

theorem joined_likeChecks_ne (list other pattern tail : String) :
    Check.joined position (likeChecks list pattern) ≠ opening other position ++ tail := by
  unfold opening valueAt
  intro heq
  by_cases hne : pattern = ""
  · subst hne
    simpa using congrArg String.toList heq
  · rw [joined_likeChecks list hne] at heq
    simpa using congrArg String.toList heq

theorem joined_likeChecks_inj {list pattern other : String}
    (heq : Check.joined position (likeChecks list pattern) =
      Check.joined position (likeChecks list other)) :
    pattern = other := by
  by_cases hne : pattern = ""
  · by_cases hne' : other = ""
    · rw [hne, hne']
    · subst hne
      rw [joined_likeChecks_empty, joined_likeChecks list hne'] at heq
      simpa using congrArg String.toList heq
  · by_cases hne' : other = ""
    · subst hne'
      rw [joined_likeChecks_empty, joined_likeChecks list hne] at heq
      simpa using congrArg String.toList heq
    · rw [joined_likeChecks list hne, joined_likeChecks list hne'] at heq
      exact (String.append_right_inj _).mp ((String.append_left_inj _).mp heq)

/-- The checks of statuses cannot be taken for those of reasons. -/
theorem joined_statusChecks_ne (values : List String) (list pattern tail : String) :
    Check.joined position (oneOfChecks "responseObject.status.conditions\x7b\x7d.status" values) ++
        Check.joined position (likeChecks list pattern) ≠
      opening "responseObject.status.conditions\x7b\x7d.reason" position ++ tail := by
  intro heq
  by_cases hne : values = []
  · subst hne
    rw [joined_oneOfChecks_nil, String.empty_append] at heq
    exact joined_likeChecks_ne list _ pattern tail heq
  · -- The names of the two lists differ in their last parts.
    rw [joined_oneOfChecks _ hne] at heq
    unfold opening valueAt at heq
    simpa using congrArg String.toList heq

end

theorem joined_checks :
    Check.joined condition.indexField condition.checks =
      Check.joined condition.indexField
          (oneOfChecks "responseObject.status.conditions\x7b\x7d.reason" condition.reasons) ++
        (Check.joined condition.indexField
            (oneOfChecks "responseObject.status.conditions\x7b\x7d.status" condition.statuses) ++
          Check.joined condition.indexField
            (likeChecks "responseObject.status.conditions\x7b\x7d.message" condition.pattern)) := by
  unfold Check.joined checks
  rw [List.map_append, List.map_append, String.join_append, String.join_append,
    String.append_assoc]

/-- The first command tells the index field, which ends at the first equals sign, and the type. -/
theorem findText_inj {position other list kind otherKind : String} (h : Lacks '=' position)
    (h' : Lacks '=' other)
    (heq : findText position list kind = findText other list otherKind) :
    position = other ∧ kind = otherKind := by
  rw [← eval_eq_findText, ← eval_eq_findText, String.append_right_inj] at heq
  obtain ⟨hposition, hfound⟩ := assign_inj h h' heq
  simp only [mvfind, literal, String.append_assoc, String.append_right_inj] at hfound
  exact ⟨hposition, (String.append_left_inj _).mp hfound⟩

variable {condition} {other : StatusCondition}

/-- No value holds a quote, so that each one ends where its literal does. -/
def Quotable (condition : StatusCondition) : Prop :=
  ∀ value ∈ condition.reasons ++ condition.statuses, Lacks '"' value

theorem checks_inj (h : condition.Quotable) (h' : other.Quotable)
    (hposition : condition.indexField = other.indexField)
    (heq : Check.joined condition.indexField condition.checks =
      Check.joined other.indexField other.checks) :
    condition.reasons = other.reasons ∧ condition.statuses = other.statuses ∧
      condition.pattern = other.pattern := by
  unfold Quotable at h h'
  rw [List.forall_mem_append] at h h'
  rw [joined_checks, joined_checks, ← hposition] at heq
  obtain ⟨hreasons, hrest⟩ := joined_oneOfChecks_inj h.1 h'.1
    (joined_statusChecks_ne _ _ _) (joined_statusChecks_ne _ _ _) heq
  obtain ⟨hstatuses, hlike⟩ := joined_oneOfChecks_inj h.2 h'.2
    (joined_likeChecks_ne _ _ _) (joined_likeChecks_ne _ _ _) hrest
  exact ⟨hreasons, hstatuses, joined_likeChecks_inj hlike⟩

theorem commands_eq_iff (hfield : Lacks '=' condition.indexField)
    (hfield' : Lacks '=' other.indexField) (h : condition.Quotable) (h' : other.Quotable) :
    condition.filter.commands = other.filter.commands ↔
      condition.kind = other.kind ∧ condition.indexField = other.indexField ∧
        condition.reasons = other.reasons ∧ condition.statuses = other.statuses ∧
        condition.message.getD "" = other.message.getD "" := by
  rw [commands_eq, commands_eq]
  constructor
  · intro heq
    obtain ⟨hfind, hrest⟩ := List.cons.inj heq
    obtain ⟨hrequire, -⟩ := List.cons.inj hrest
    obtain ⟨hposition, hkind⟩ := findText_inj hfield hfield' hfind
    have hchecks : Check.joined condition.indexField condition.checks =
        Check.joined other.indexField other.checks := by
      unfold requireText at hrequire
      rw [hposition, String.append_right_inj] at hrequire
      rwa [hposition]
    exact ⟨hkind, hposition, checks_inj h h' hposition hchecks⟩
  · rintro ⟨hkind, hposition, hreasons, hstatuses, hpattern⟩
    have hchecks : condition.checks = other.checks := by
      unfold checks pattern
      rw [hreasons, hstatuses, hpattern]
    rw [hkind, hposition, hchecks]

/-- Settings come to the last of each part, and settings of different parts may change places. The
texts of a condition read the lists at its index field, in the checks of the second command and in
the fields that it makes available. Its commands are those of another condition exactly if no part
differs, where an empty pattern is as good as none. -/
theorem commands_tell_condition :
    (∀ kind settings, ({ kind } : StatusCondition).setAll settings =
      { kind
        indexField := (lastGiven? Setting.indexField? settings).getD "status_condition_index"
        reasons := (lastGiven? Setting.reasons? settings).getD []
        statuses := (lastGiven? Setting.statuses? settings).getD []
        message := (lastGiven? Setting.message? settings).getD none }) ∧
    (∀ (condition : StatusCondition) before (setting other : Setting) after,
      setting.slots.Disjoint other.slots →
      condition.setAll (before ++ setting :: other :: after) =
        condition.setAll (before ++ other :: setting :: after)) ∧
    (∀ condition : StatusCondition,
      condition.filter.commands =
        [findText condition.indexField "responseObject.status.conditions\x7b\x7d.type"
            condition.kind,
          requireText condition.indexField condition.checks] ∧
      ∀ name, condition.filter.schema.get? name =
        if name = "status_message" then
          some (fieldAt "responseObject.status.conditions\x7b\x7d.message" condition.indexField)
        else if name = "status_reason" then
          some (fieldAt "responseObject.status.conditions\x7b\x7d.reason" condition.indexField)
        else none) ∧
    ∀ condition other : StatusCondition,
      Lacks '=' condition.indexField → Lacks '=' other.indexField →
      condition.Quotable → other.Quotable →
      (condition.filter.commands = other.filter.commands ↔
        condition.kind = other.kind ∧ condition.indexField = other.indexField ∧
          condition.reasons = other.reasons ∧ condition.statuses = other.statuses ∧
          condition.message.getD "" = other.message.getD "") := by
  refine ⟨fun kind => setAll_eq { kind }, ?_, ?_, fun _ _ => commands_eq_iff⟩
  · intro condition before setting other after h
    exact setAll_swap condition h before after
  · intro condition
    exact ⟨commands_eq condition, get?_schema condition⟩

/-- One condition lets through the empty reason, the other one the empty status. -/
theorem commands_tell_condition_empty :
    let condition : StatusCondition :=
      ({ kind := "Ready" } : StatusCondition).setAll [.reasons ["Failed"], .reasons [""], .message ""]
    let other : StatusCondition :=
      ({ kind := "Ready" } : StatusCondition).setAll [.message "%", .options [] [""] none]
    Lacks '=' condition.indexField ∧ Lacks '=' other.indexField ∧
      condition.Quotable ∧ other.Quotable ∧
      condition.filter.commands ≠ other.filter.commands := by
  intro condition other
  have hfield : Lacks '=' condition.indexField := by decide
  have hfield' : Lacks '=' other.indexField := by decide
  have h : condition.Quotable := by
    unfold Quotable
    decide
  have h' : other.Quotable := by
    unfold Quotable
    decide
  refine ⟨hfield, hfield', h, h', fun heq => ?_⟩
  have hparts := (commands_tell_condition.2.2.2 condition other hfield hfield' h h').mp heq
  have hreasons : condition.reasons ≠ other.reasons := by decide
  exact hreasons hparts.2.2.1

end AuditSearch.Query.StatusCondition
