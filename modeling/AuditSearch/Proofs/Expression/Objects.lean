import AuditSearch.Proofs.Expression.Chains
import AuditSearch.Proofs.Expression.Literals

/-!
# Objects in a canonical form

The members of an object are written in the order of the bytes of their names, and members of one
name in the order in which they were given (`sorts_sortMembers`). Nothing else of the given order is
left: a sorted list is determined by what it holds of each name (`Sorts.eq_of_named`).

In the other direction the text tells the members, if their names hold no double quotes and their
values are chains of fields whose names hold no single quotes. Whatever brackets and commas stand in
those names, a chain ends where its own grammar says, because its first character tells a
conditional from a field (`selfDelimiting_chain`).
-/

namespace AuditSearch.Expression

open Text

/-! ## Sorted members -/

/-- The members of the name, in the order in which they are given. -/
def named (name : String) (members : List (String × String)) : List (String × String) :=
  members.filter fun member => member.1 = name

/-- The members of `sorted` are those of `members`, in non-descending order of the bytes of their
names. Members of one name keep their order. -/
structure Sorts (sorted members : List (String × String)) : Prop where
  perm : sorted.Perm members
  ascending : sorted.Pairwise fun a b => bytes a.1 ≤ bytes b.1
  stable : ∀ name, named name sorted = named name members

section
variable {sorted members others : List (String × String)}

theorem fst_of_mem_named {name : String} {member : String × String}
    (h : member ∈ named name members) : member.1 = name :=
  of_decide_eq_true (List.mem_filter.mp h).2

theorem named_cons_self (member : String × String) (members : List (String × String)) :
    named member.1 (member :: members) = member :: named member.1 members :=
  List.filter_cons_of_pos (decide_eq_true rfl)

theorem named_cons_of_ne {name : String} {member : String × String} (h : member.1 ≠ name) :
    named name (member :: members) = named name members :=
  List.filter_cons_of_neg (by simpa using h)

theorem perm_of_named_eq (h : ∀ name, named name members = named name others) :
    members.Perm others := by
  rw [List.perm_iff_count]
  intro member
  have hcount : ∀ list, (named member.1 list).count member = list.count member :=
    fun list => List.count_filter (decide_eq_true rfl)
  rw [← hcount, h, hcount]

/-- Of one name there is at most one member, which cannot change its place. -/
theorem named_eq_of_perm (hperm : members.Perm others) (h : (members.map Prod.fst).Nodup)
    (name : String) : named name members = named name others := by
  have hfilter : (named name members).Perm (named name others) := hperm.filter _
  have hname : ∀ member ∈ named name members, member.1 = name := fun _ => fst_of_mem_named
  have hnodup : ((named name members).map Prod.fst).Nodup :=
    h.sublist (List.filter_sublist.map Prod.fst)
  match hnamed : named name members with
  | [] => exact (hnamed ▸ hfilter).nil_eq
  | [member] => exact (hnamed ▸ hfilter).singleton_eq
  | first :: second :: rest =>
    rw [hnamed] at hname hnodup
    have heq : first.1 = second.1 := by
      rw [hname first List.mem_cons_self,
        hname second (List.mem_cons_of_mem _ List.mem_cons_self)]
    rw [List.map_cons, List.map_cons, heq] at hnodup
    exact absurd List.mem_cons_self (List.nodup_cons.mp hnodup).1

/-- The first of a list in order has the least name, so lists in order that hold the same of each
name begin with the same member. -/
theorem eq_of_named_eq (h : members.Pairwise fun a b => a.1 ≤ b.1)
    (h' : others.Pairwise fun a b => a.1 ≤ b.1)
    (hnamed : ∀ name, named name members = named name others) : members = others := by
  have hleast : ∀ (first : String × String) rest,
      ((first :: rest).Pairwise fun a b => a.1 ≤ b.1) →
        ∀ member ∈ first :: rest, first.1 ≤ member.1 := by
    intro first rest hrest
    rw [List.pairwise_cons] at hrest
    exact List.forall_mem_cons.mpr ⟨le_refl _, hrest.1⟩
  induction members generalizing others with
  | nil => exact (perm_of_named_eq hnamed).nil_eq
  | cons first members ih =>
    have hmem := fun member => (perm_of_named_eq hnamed).mem_iff (a := member)
    cases others with
    | nil => exact absurd ((hmem first).mp List.mem_cons_self) List.not_mem_nil
    | cons other others =>
      have hname : first.1 = other.1 := le_antisymm
        (hleast first members h other ((hmem other).mpr List.mem_cons_self))
        (hleast other others h' first ((hmem first).mp List.mem_cons_self))
      have hfirst := hnamed first.1
      rw [named_cons_self, hname, named_cons_self, List.cons.injEq] at hfirst
      obtain ⟨rfl, hsame⟩ := hfirst
      have hrest : ∀ name, named name members = named name others := by
        intro name
        by_cases hne : first.1 = name
        · rw [← hne, hsame]
        · have hother := hnamed name
          rwa [named_cons_of_ne hne, named_cons_of_ne hne] at hother
      rw [ih (List.pairwise_cons.mp h).2 (List.pairwise_cons.mp h').2 hrest]

end

theorem Sorts.eq_of_named {sorted members result others : List (String × String)}
    (h : Sorts sorted members) (h' : Sorts result others)
    (hnamed : ∀ name, named name members = named name others) : sorted = result := by
  refine eq_of_named_eq (h.ascending.imp bytes_le_bytes.mp) (h'.ascending.imp bytes_le_bytes.mp) ?_
  intro name
  rw [h.stable, h'.stable, hnamed]

/-- The members of one name are in order as they are given, so sorting moves none of them past
another. -/
theorem sorts_sortMembers (members : List (String × String)) :
    Sorts (sortMembers members) members := by
  have htrans : ∀ a b c : String × String,
      decide (a.1 ≤ b.1) → decide (b.1 ≤ c.1) → decide (a.1 ≤ c.1) := by
    intro a b c hab hbc
    exact decide_eq_true (le_trans (of_decide_eq_true hab) (of_decide_eq_true hbc))
  have htotal : ∀ a b : String × String, decide (a.1 ≤ b.1) || decide (b.1 ≤ a.1) := by
    intro a b
    rw [← Bool.decide_or]
    exact decide_eq_true (le_total a.1 b.1)
  have hperm : (sortMembers members).Perm members := List.mergeSort_perm members _
  refine ⟨hperm, ?_, fun name => ?_⟩
  · refine (List.pairwise_mergeSort htrans htotal members).imp ?_
    intro a b hab
    exact bytes_le_bytes.mpr (of_decide_eq_true hab)
  · have hsame : (named name members).Pairwise fun a b => decide (a.1 ≤ b.1) := by
      refine List.pairwise_of_forall_mem_list fun a ha b hb => ?_
      rw [fst_of_mem_named ha, fst_of_mem_named hb]
      exact decide_eq_true (le_refl name)
    have hsublist : (named name members).Sublist (sortMembers members) :=
      List.sublist_mergeSort htrans htotal hsame List.filter_sublist
    have hnamed : (named name members).Sublist (named name (sortMembers members)) := by
      have hfilter := hsublist.filter fun member => decide (member.1 = name)
      rwa [List.filter_eq_self.mpr fun _ hmem => decide_eq_true (fst_of_mem_named hmem)] at hfilter
    exact (hnamed.eq_of_length (hperm.filter _).length_eq.symm).symm

/-! ## Members that are read back -/

/-- A conditional begins with its own keyword and a field with a quote. -/
theorem selfDelimiting_chain :
    SelfDelimiting (fun chain : Chain => ∀ name ∈ chain.names, Lacks Chain.quote name)
      Chain.text := by
  have hquoted : SelfDelimiting (Lacks Chain.quote) Chain.quoted :=
    selfDelimiting_enclosed Chain.quote
  have hfield : ∀ name, (Chain.field name).text = Chain.quoted name := fun _ => rfl
  have horElse : ∀ name otherwise, (Chain.orElse name otherwise).text =
      "if(isnull(" ++ Chain.quoted name ++ ")," ++ otherwise.text ++ "," ++ Chain.quoted name ++
        ")" := fun _ _ => rfl
  have hne : ∀ name name' otherwise rest more,
      (Chain.field name).text ++ rest ≠ (Chain.orElse name' otherwise).text ++ more := by
    intro name name' otherwise rest more heq
    have hopen : ∀ rest more, String.singleton Chain.quote ++ rest ≠ "if(isnull(" ++ more := by
      intro rest more heq
      simpa [Chain.quote] using congrArg String.toList heq
    simp only [hfield, horElse, Chain.quoted, String.append_assoc] at heq
    exact hopen _ _ heq
  intro chain other rest more h h' heq
  induction chain generalizing other rest more with
  | field name =>
    cases other with
    | field otherName =>
      obtain ⟨rfl, hrest⟩ := hquoted _ _ _ _ (h name List.mem_cons_self)
        (h' otherName List.mem_cons_self) heq
      exact ⟨rfl, hrest⟩
    | orElse otherName otherwise => exact absurd heq (hne _ _ _ _ _)
  | orElse name otherwise ih =>
    cases other with
    | field otherName => exact absurd heq.symm (hne _ _ _ _ _)
    | orElse otherName otherOtherwise =>
      rw [Chain.names, List.forall_mem_cons] at h h'
      simp only [horElse, String.append_assoc, String.append_right_inj] at heq
      obtain ⟨rfl, hotherwise⟩ := hquoted _ _ _ _ h.1 h'.1 heq
      rw [String.append_right_inj] at hotherwise
      obtain ⟨rfl, hname⟩ := ih _ _ _ h.2 h'.2 hotherwise
      rw [String.append_right_inj] at hname
      have hrest := (hquoted _ _ _ _ h.1 h'.1 hname).2
      exact ⟨rfl, (String.append_right_inj _).mp hrest⟩

/-- A name without double quotes, with the first non-null value of fields without single quotes. -/
def Readable (member : String × String) : Prop :=
  Lacks '"' member.1 ∧
    ∃ fields, firstNonNull? fields = some member.2 ∧ ∀ field ∈ fields, Lacks '\'' field

theorem Readable.exists_chain {member : String × String} (h : Readable member) :
    ∃ chain : Chain, member.2 = chain.text ∧ ∀ name ∈ chain.names, Lacks Chain.quote name := by
  obtain ⟨-, fields, hvalue, hfields⟩ := h
  cases fields with
  | nil => exact nomatch hvalue
  | cons name rest =>
    refine ⟨Chain.ofNames name rest, ?_, ?_⟩
    · rw [Chain.text_ofNames]
      exact (Option.some.inj hvalue).symm
    · rw [Chain.names_ofNames]
      exact hfields

def fragment (member : String × String) : String :=
  literal member.1 ++ "," ++ member.2

theorem selfDelimiting_fragment : SelfDelimiting Readable fragment := by
  rintro ⟨name, value⟩ ⟨other, result⟩ rest more h h' heq
  obtain ⟨chain, rfl, hchain⟩ := h.exists_chain
  obtain ⟨chain', rfl, hchain'⟩ := h'.exists_chain
  simp only [fragment, String.append_assoc] at heq
  obtain ⟨rfl, hvalue⟩ := selfDelimiting_literal _ _ _ _ h.1 h'.1 heq
  rw [String.append_right_inj] at hvalue
  obtain ⟨rfl, hrest⟩ := selfDelimiting_chain _ _ _ _ hchain hchain' hvalue
  exact ⟨rfl, hrest⟩

theorem jsonObject_eq (members : List (String × String)) :
    jsonObject members =
      "json_object(" ++ (",".intercalate ((sortMembers members).map fragment) ++ (")" ++ "")) := by
  rw [String.append_empty, ← String.append_assoc]
  rfl

theorem perm_of_jsonObject_eq {members others : List (String × String)}
    (h : ∀ member ∈ members, Readable member) (h' : ∀ member ∈ others, Readable member)
    (heq : jsonObject members = jsonObject others) : members.Perm others := by
  have hsort : ∀ members, (sortMembers members).Perm members :=
    fun members => (sorts_sortMembers members).perm
  have hclosed : ∀ rest more : String, ")" ++ rest ≠ "," ++ more := by
    intro rest more heq
    simpa using congrArg String.toList heq
  have hopen : ∀ member rest more, ")" ++ rest ≠ fragment member ++ more := by
    intro member rest more heq
    simpa [fragment, literal] using congrArg String.toList heq
  rw [jsonObject_eq, jsonObject_eq, String.append_right_inj] at heq
  have hsorted : sortMembers members = sortMembers others :=
    (selfDelimiting_fragment.intercalate hclosed hopen
      (fun member hmember => h member ((hsort members).mem_iff.mp hmember))
      (fun member hmember => h' member ((hsort others).mem_iff.mp hmember)) heq).1
  exact (hsort members).symm.trans (hsorted ▸ hsort others)

/-- The text shows the members in order, and depends on nothing but what is given of each name in
the order in which it is given. So the order of distinct names does not matter. Members that can be
read back are determined by the text up to their order. -/
theorem jsonObject_canonical (members : List (String × String)) :
    (∃ sorted, Sorts sorted members ∧
      jsonObject members = "json_object(" ++
        ",".intercalate (sorted.map fun member => "\"" ++ member.1 ++ "\"" ++ "," ++ member.2) ++
          ")") ∧
    (∀ others, members.Perm others → (∀ name, named name members = named name others) →
      jsonObject members = jsonObject others) ∧
    (∀ others, members.Perm others → (members.map Prod.fst).Nodup →
      jsonObject members = jsonObject others) ∧
    ∀ others, (∀ member ∈ members, Readable member) → (∀ member ∈ others, Readable member) →
      jsonObject members = jsonObject others → members.Perm others := by
  have hnamed : ∀ others, (∀ name, named name members = named name others) →
      jsonObject members = jsonObject others := by
    intro others h
    rw [jsonObject_eq, jsonObject_eq,
      (sorts_sortMembers members).eq_of_named (sorts_sortMembers others) h]
  refine ⟨⟨sortMembers members, sorts_sortMembers members, rfl⟩, ?_, ?_, ?_⟩
  · intro others _ h
    exact hnamed others h
  · intro others hperm hnodup
    exact hnamed others (named_eq_of_perm hperm hnodup)
  · intro others h h' heq
    exact perm_of_jsonObject_eq h h' heq

/-- A field whose name looks like the end of an object and the beginning of another member. -/
theorem jsonObject_canonical_brackets :
    let verb := ("verb", "'verb'")
    let user := ("user", "if(isnull('),\"verb\",'),'name','),\"verb\",')")
    let again := ("verb", "'again'")
    (∀ member ∈ [verb, user, again], Readable member) ∧
    jsonObject [verb, user, again] = jsonObject [verb, again, user] ∧
    jsonObject [verb, user] = jsonObject [user, verb] ∧
    ∀ others, (∀ member ∈ others, Readable member) →
      jsonObject [verb, user, again] = jsonObject others → [verb, user, again].Perm others := by
  intro verb user again
  obtain ⟨-, hnamed, -, hread⟩ := jsonObject_canonical [verb, user, again]
  obtain ⟨-, -, hdistinct, -⟩ := jsonObject_canonical [verb, user]
  have hreadable : ∀ member ∈ [verb, user, again], Readable member := by
    simp only [List.forall_mem_cons]
    exact ⟨⟨by decide, ["verb"], rfl, by decide⟩,
      ⟨by decide, ["),\"verb\",", "name"], rfl, by decide⟩,
      ⟨by decide, ["again"], rfl, by decide⟩, fun _ h => absurd h List.not_mem_nil⟩
  have hsame : ∀ name, named name [verb, user, again] = named name [verb, again, user] := by
    intro name
    by_cases h : "verb" = name
    · subst h
      rfl
    · simp [named, List.filter_cons, verb, again, h]
  refine ⟨hreadable, hnamed _ ?_ hsame, hdistinct _ ?_ ?_, fun others => hread others hreadable⟩
  · decide
  · decide
  · decide

end AuditSearch.Expression
