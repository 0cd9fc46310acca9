import AuditSearch.Proofs.Output.Requests
import AuditSearch.Proofs.Text.Pieces

/-!
# Separators in what a plan writes

Bars stand between the commands of a query and NUL characters between queries. The fragments that
expressions and commands are put together from hold neither, so the commands of a plan lack a
separator if the names and rules that the plan is made from lack it (`Reading.Lacks.commands`).
-/

namespace AuditSearch.Expression

open Text

def separators : List Char := ['|', '\x00']

section
variable {sep : Char} (hsep : sep ∈ separators)
include hsep

/-- For fragments that are always the same. -/
theorem lacks_fragment {text : String} (hbar : Lacks '|' text := by decide)
    (hnul : Lacks '\x00' text := by decide) : Lacks sep text := by
  rcases List.mem_pair.mp hsep with rfl | rfl
  · exact hbar
  · exact hnul

theorem lacks_fieldRef {name : String} (h : Lacks sep name) : Lacks sep (fieldRef name) := by
  have hquote : Lacks sep "'" := lacks_fragment hsep
  exact (hquote.append h).append hquote

theorem lacks_literal {value : String} (h : Lacks sep value) : Lacks sep (literal value) := by
  have hquote : Lacks sep "\"" := lacks_fragment hsep
  exact (hquote.append h).append hquote

theorem lacks_assign {name value : String} (hname : Lacks sep name) (hvalue : Lacks sep value) :
    Lacks sep (assign name value) := by
  have hequals : Lacks sep "=" := lacks_fragment hsep
  exact (hname.append hequals).append hvalue

theorem lacks_commaList {words : List String} (h : ∀ word ∈ words, Lacks sep word) :
    Lacks sep (commaList words) := by
  have hcomma : Lacks sep "," := lacks_fragment hsep
  exact hcomma.intercalate h

theorem lacks_firstNonNull {name : String} {rest : List String}
    (h : ∀ field ∈ name :: rest, Lacks sep field) : Lacks sep (firstNonNull name rest) := by
  induction rest generalizing name with
  | nil => exact lacks_fieldRef hsep (h name List.mem_cons_self)
  | cons next rest ih =>
    rw [List.forall_mem_cons] at h
    have htest : Lacks sep "if(isnull(" := lacks_fragment hsep
    have hthen : Lacks sep ")," := lacks_fragment hsep
    have hcomma : Lacks sep "," := lacks_fragment hsep
    have hclose : Lacks sep ")" := lacks_fragment hsep
    have hname : Lacks sep (fieldRef name) := lacks_fieldRef hsep h.1
    have hrest : Lacks sep (firstNonNull next rest) := ih h.2
    exact (((((htest.append hname).append hthen).append hrest).append hcomma).append
      hname).append hclose

theorem lacks_keepFirstValues {names : List String} (h : ∀ name ∈ names, Lacks sep name) :
    Lacks sep (keepFirstValues names) := by
  have heval : Lacks sep "eval " := lacks_fragment hsep
  have hopen : Lacks sep "mvindex(" := lacks_fragment hsep
  have hzero : Lacks sep "0" := lacks_fragment hsep
  have hcomma : Lacks sep ", " := lacks_fragment hsep
  have hclose : Lacks sep ")" := lacks_fragment hsep
  refine heval.append (lacks_commaList hsep (List.forall_mem_map.mpr fun name hname => ?_))
  have hfield : Lacks sep (fieldRef name) := lacks_fieldRef hsep (h name hname)
  exact lacks_assign hsep (h name hname)
    ((((hopen.append hfield).append hcomma).append hzero).append hclose)

end

end AuditSearch.Expression

namespace AuditSearch.Output

open Expression Text

/-- The character occurs nowhere in the rule. -/
structure Rule.Lacks (sep : Char) (rule : Rule) : Prop where
  sources : ∀ source ∈ rule.sources, Text.Lacks sep source
  expression : ∀ expression ∈ rule.expression, Text.Lacks sep expression
  container : ∀ container ∈ rule.container, Text.Lacks sep container

instance (sep : Char) (rule : Rule) : Decidable (rule.Lacks sep) :=
  decidable_of_iff
    ((∀ source ∈ rule.sources, Text.Lacks sep source) ∧
      (∀ expression ∈ rule.expression, Text.Lacks sep expression) ∧
      ∀ container ∈ rule.container, Text.Lacks sep container)
    ⟨fun h => ⟨h.1, h.2.1, h.2.2⟩, fun h => ⟨h.sources, h.expression, h.container⟩⟩

/-- The character occurs neither in the names nor in their rules. -/
structure Reading.Lacks (sep : Char) (reading : Reading) : Prop where
  names : ∀ name ∈ reading.names, Text.Lacks sep name
  rules : ∀ name ∈ reading.names, (reading.rule name).Lacks sep

section
variable {sep : Char}

theorem Rule.Lacks.reads {rule : Rule} (h : rule.Lacks sep) {name : String}
    (hname : Text.Lacks sep name) : ∀ field ∈ rule.reads name, Text.Lacks sep field := by
  unfold Rule.reads
  split_ifs
  · exact h.sources
  · exact List.forall_mem_singleton.mpr hname
  · exact List.forall_mem_nil _

theorem Rule.Lacks.given (hsep : sep ∈ separators) {rule : Rule} (h : rule.Lacks sep) :
    ∀ value ∈ rule.given?, Text.Lacks sep value := by
  intro value hvalue
  unfold Rule.given? at hvalue
  cases hexpression : rule.expression with
  | some expression =>
    rw [hexpression] at hvalue
    exact h.expression value (hexpression.trans hvalue)
  | none =>
    cases hsources : rule.sources with
    | nil => simp only [hexpression, hsources, reduceCtorEq, Option.mem_def] at hvalue
    | cons source rest =>
      simp only [hexpression, hsources, Option.mem_def, Option.some_inj] at hvalue
      have hall : ∀ field ∈ source :: rest, Text.Lacks sep field := hsources ▸ h.sources
      rw [← hvalue, Chain.text_ofNames]
      exact lacks_firstNonNull hsep hall

end

namespace Reading.Lacks

variable {sep : Char} {reading : Reading}

theorem firstValues (h : reading.Lacks sep) : ∀ field ∈ reading.firstValues, Text.Lacks sep field := by
  intro field hfield
  obtain ⟨name, hname, hread⟩ := List.mem_flatMap.mp (List.mem_eraseDups.mp hfield)
  exact (h.rules name hname).reads (h.names name hname) field hread

theorem plain (h : reading.Lacks sep) : ∀ name ∈ reading.plain, Text.Lacks sep name :=
  fun name hname => h.names name (List.mem_of_mem_filter hname)

theorem containers (h : reading.Lacks sep) :
    ∀ container ∈ reading.containers, Text.Lacks sep container := by
  intro container hcontainer
  obtain ⟨name, hname, hrule⟩ := Reading.mem_containers.mp hcontainer
  exact (h.rules name hname).container container hrule

theorem selection (h : reading.Lacks sep) :
    ∀ name ∈ reading.plan.selection, Text.Lacks sep name := by
  intro name hname
  rcases List.mem_append.mp (mem_ascending.mp hname) with hplain | hcontainer
  · exact h.plain name hplain
  · exact h.containers name hcontainer

variable (hsep : sep ∈ separators)
include hsep

theorem member (h : reading.Lacks sep) {name : String} (hname : name ∈ reading.names) :
    Text.Lacks sep (reading.member name) := by
  have hgiven := (h.rules name hname).given hsep
  unfold Reading.member
  cases hvalue : (reading.rule name).given? with
  | some value => exact hgiven value hvalue
  | none => exact lacks_fieldRef hsep (h.names name hname)

theorem object (h : reading.Lacks sep) (container : String) :
    Text.Lacks sep (reading.object container) := by
  have hopen : Text.Lacks sep "json_object(" := lacks_fragment hsep
  have hcomma : Text.Lacks sep "," := lacks_fragment hsep
  have hclose : Text.Lacks sep ")" := lacks_fragment hsep
  refine (hopen.append (hcomma.intercalate (List.forall_mem_map.mpr fun name hname => ?_))).append
    hclose
  have hname : name ∈ reading.names := List.mem_of_mem_filter (mem_ascending.mp hname)
  have hliteral := lacks_literal hsep (h.names name hname)
  exact (hliteral.append hcomma).append (h.member hsep hname)

theorem assignments (h : reading.Lacks sep) :
    ∀ assignment ∈ reading.plan.assignments, Text.Lacks sep assignment := by
  intro assignment hassignment
  rcases List.mem_append.mp hassignment with hplain | hobject
  · obtain ⟨name, hname, hsome⟩ := List.mem_filterMap.mp hplain
    obtain ⟨value, hvalue, rfl⟩ := Option.map_eq_some_iff.mp hsome
    have hnames : name ∈ reading.names := List.mem_of_mem_filter hname
    exact lacks_assign hsep (h.plain name hname) ((h.rules name hnames).given hsep value hvalue)
  · obtain ⟨container, hcontainer, rfl⟩ := List.mem_map.mp hobject
    exact lacks_assign hsep (h.containers container hcontainer) (h.object hsep container)

/-- A plan brings no separator into its commands. -/
theorem commands (h : reading.Lacks sep) :
    ∀ command ∈ reading.plan.commands, Text.Lacks sep command := by
  have hfields : Text.Lacks sep "fields " := lacks_fragment hsep
  have heval : Text.Lacks sep "eval " := lacks_fragment hsep
  have hdrop : Text.Lacks sep Plan.dropMetadata := lacks_fragment hsep
  have hkeep := lacks_keepFirstValues hsep h.firstValues
  have hassign := heval.append (lacks_commaList hsep (h.assignments hsep))
  have hselect := hfields.append (lacks_commaList hsep h.selection)
  intro command hcommand
  rcases List.mem_append.mp hcommand with hprepare | hend
  · rcases List.mem_append.mp hprepare with hcut | heach
    · split_ifs at hcut
      · exact absurd hcut List.not_mem_nil
      · exact List.mem_singleton.mp hcut ▸ hkeep
    · split_ifs at heach
      · exact absurd heach List.not_mem_nil
      · exact List.mem_singleton.mp heach ▸ hassign
  · rcases List.mem_pair.mp hend with rfl | rfl
    · exact hselect
    · exact hdrop

end Reading.Lacks

end AuditSearch.Output
