import AuditSearch.Expression
import AuditSearch.Proofs.Text.Pieces

/-!
# Where a name or a literal ends

Fragments of the search language stand in a text without marks of their own length. An assigned name
is found again because it ends at the first equals sign, and a literal because it ends at the next
quote, whatever comes after it. A list of such fragments ends at the bracket behind the last one
(`SelfDelimiting.intercalate`), so that lists of different lengths cannot be mistaken for each other.
-/

namespace AuditSearch.Expression

open Text

/-- A name without an equals sign ends where the assignment says. -/
theorem assign_inj {name other value result : String} (h : Lacks '=' name)
    (h' : Lacks '=' other) (heq : assign name value = assign other result) :
    name = other ∧ value = result := by
  have hequals : "=" = String.singleton '=' := rfl
  rw [assign, assign, hequals] at heq
  exact append_singleton_inj h h' heq

/-- A text that begins with the fragment of a known value tells the value and what comes after it. -/
def SelfDelimiting {α : Type} (known : α → Prop) (fragment : α → String) : Prop :=
  ∀ a b rest more, known a → known b → fragment a ++ rest = fragment b ++ more →
    a = b ∧ rest = more

/-- What stands between two quotes ends at the second one. -/
theorem selfDelimiting_enclosed (quote : Char) :
    SelfDelimiting (Lacks quote)
      fun value => String.singleton quote ++ value ++ String.singleton quote := by
  intro value other rest more h h' heq
  simp only [String.append_assoc, String.append_right_inj] at heq
  rw [← String.append_assoc, ← String.append_assoc] at heq
  exact append_singleton_inj h h' heq

theorem selfDelimiting_literal : SelfDelimiting (Lacks '"') literal :=
  selfDelimiting_enclosed '"'

namespace SelfDelimiting

variable {α : Type} {known : α → Prop} {fragment : α → String} {separator rest more : String}
  {values others : List α}

/-- What stands behind separators is found again up to the bracket that ends the list. -/
theorem join (hfragment : SelfDelimiting known fragment)
    (hclosed : ∀ rest more, ")" ++ rest ≠ separator ++ more)
    (h : ∀ value ∈ values, known value) (h' : ∀ value ∈ others, known value)
    (heq : String.join (values.map fun value => separator ++ fragment value) ++ (")" ++ rest) =
      String.join (others.map fun value => separator ++ fragment value) ++ (")" ++ more)) :
    values = others ∧ rest = more := by
  induction values generalizing others with
  | nil =>
    cases others with
    | nil =>
      rw [List.map_nil, String.join_nil, String.append_right_inj, String.append_right_inj] at heq
      exact ⟨rfl, heq⟩
    | cons other others =>
      rw [List.map_nil, String.join_nil, String.empty_append, List.map_cons, String.join_cons,
        String.append_assoc, String.append_assoc] at heq
      exact absurd heq (hclosed _ _)
  | cons value values ih =>
    rw [List.forall_mem_cons] at h
    cases others with
    | nil =>
      rw [List.map_nil, String.join_nil, String.empty_append, List.map_cons, String.join_cons,
        String.append_assoc, String.append_assoc] at heq
      exact absurd heq.symm (hclosed _ _)
    | cons other others =>
      rw [List.forall_mem_cons] at h'
      rw [List.map_cons, List.map_cons, String.join_cons, String.join_cons, String.append_assoc,
        String.append_assoc, String.append_assoc, String.append_assoc,
        String.append_right_inj] at heq
      obtain ⟨rfl, htail⟩ := hfragment _ _ _ _ h.1 h'.1 heq
      obtain ⟨rfl, hrest⟩ := ih h.2 h'.2 htail
      exact ⟨rfl, hrest⟩

/-- A list tells its values and where it ends, if no fragment begins like the bracket. -/
theorem intercalate (hfragment : SelfDelimiting known fragment)
    (hclosed : ∀ rest more, ")" ++ rest ≠ separator ++ more)
    (hopen : ∀ value rest more, ")" ++ rest ≠ fragment value ++ more)
    (h : ∀ value ∈ values, known value) (h' : ∀ value ∈ others, known value)
    (heq : separator.intercalate (values.map fragment) ++ (")" ++ rest) =
      separator.intercalate (others.map fragment) ++ (")" ++ more)) :
    values = others ∧ rest = more := by
  have hcons : ∀ value values tail, separator.intercalate ((value :: values).map fragment) ++ tail =
      fragment value ++
        (String.join (values.map fun value => separator ++ fragment value) ++ tail) := by
    intro value values tail
    rw [List.map_cons, intercalate_eq_join, List.map_map, String.append_assoc]
    rfl
  cases values with
  | nil =>
    cases others with
    | nil =>
      rw [String.append_right_inj, String.append_right_inj] at heq
      exact ⟨rfl, heq⟩
    | cons other others =>
      rw [hcons] at heq
      exact absurd heq (hopen _ _ _)
  | cons value values =>
    cases others with
    | nil =>
      rw [hcons] at heq
      exact absurd heq.symm (hopen _ _ _)
    | cons other others =>
      rw [List.forall_mem_cons] at h h'
      rw [hcons, hcons] at heq
      obtain ⟨rfl, htail⟩ := hfragment _ _ _ _ h.1 h'.1 heq
      obtain ⟨rfl, hrest⟩ := hfragment.join hclosed h.2 h'.2 htail
      exact ⟨rfl, hrest⟩

end SelfDelimiting

/-- No literal and no separator begins like the bracket behind a list of literals. -/
theorem literalList_append_inj {values others : List String} {rest more : String}
    (h : ∀ value ∈ values, Lacks '"' value) (h' : ∀ value ∈ others, Lacks '"' value)
    (heq : literalList values ++ (")" ++ rest) = literalList others ++ (")" ++ more)) :
    values = others ∧ rest = more := by
  have hclosed : ∀ rest more : String, ")" ++ rest ≠ ", " ++ more := by
    intro rest more h
    simpa using congrArg String.toList h
  have hopen : ∀ value rest more : String, ")" ++ rest ≠ literal value ++ more := by
    intro value rest more h
    simpa [literal] using congrArg String.toList h
  exact selfDelimiting_literal.intercalate hclosed hopen h h' heq

end AuditSearch.Expression
