import AuditSearch.Text.Blank
import Mathlib.Data.List.DropRight
import Mathlib.Data.String.Basic

/-!
# White space at the end of a text

`trimEnd` takes away the longest end that is white space: what remains does not end in white space,
and nothing but white space is gone (`endsClear_trimEnd`, `exists_blank_end`). Of a text in two
parts it trims the second one, and the first one only if nothing of the second remains
(`trimEnd_append`).
-/

namespace AuditSearch.Text

/-- Every character of the text is white space. -/
def Blank (text : String) : Prop :=
  ∀ c ∈ text.toList, isBlank c = true

instance (text : String) : Decidable (Blank text) :=
  List.decidableBAll _ text.toList

/-- The last character of the text, if there is one, is not white space. -/
def EndsClear (text : String) : Prop :=
  ∀ c ∈ text.toList.getLast?, isBlank c = false

theorem toList_trimEnd (text : String) :
    (trimEnd text).toList = text.toList.rdropWhile isBlank := by
  rw [trimEnd, String.toList_ofList]
  rfl

theorem trimEnd_eq_empty_iff {text : String} : trimEnd text = "" ↔ Blank text := by
  rw [← String.toList_eq_nil_iff, toList_trimEnd, List.rdropWhile_eq_nil_iff]
  rfl

theorem endsClear_trimEnd (text : String) : EndsClear (trimEnd text) := by
  intro c hc
  rw [toList_trimEnd] at hc
  obtain ⟨hne, rfl⟩ := List.mem_getLast?_eq_getLast hc
  exact Bool.eq_false_iff.mpr (List.rdropWhile_last_not isBlank text.toList hne)

theorem exists_blank_end (text : String) :
    ∃ blanks, Blank blanks ∧ text = trimEnd text ++ blanks := by
  refine ⟨String.ofList (text.toList.rtakeWhile isBlank), ?_, ?_⟩
  · intro c hc
    rw [String.toList_ofList] at hc
    exact List.mem_rtakeWhile_imp hc
  · apply String.toList_inj.mp
    rw [String.toList_append, toList_trimEnd, String.toList_ofList,
      List.rdropWhile_append_rtakeWhile]

theorem rdropWhile_append {α : Type} (p : α → Bool) (list more : List α) :
    (list ++ more).rdropWhile p =
      if more.rdropWhile p = [] then list.rdropWhile p else list ++ more.rdropWhile p := by
  unfold List.rdropWhile
  rw [List.reverse_append, List.dropWhile_append]
  simp only [List.isEmpty_iff, List.reverse_eq_nil_iff]
  split_ifs with h
  · rfl
  · rw [List.reverse_append, List.reverse_reverse]

theorem trimEnd_append (text more : String) :
    trimEnd (text ++ more) = if trimEnd more = "" then trimEnd text else text ++ trimEnd more := by
  apply String.toList_inj.mp
  rw [toList_trimEnd, String.toList_append, rdropWhile_append, ← toList_trimEnd more]
  simp only [String.toList_eq_nil_iff]
  split_ifs with h
  · exact (toList_trimEnd text).symm
  · exact String.toList_append.symm

theorem trimEnd_append_of_blank (text : String) {blanks : String} (h : Blank blanks) :
    trimEnd (text ++ blanks) = trimEnd text := by
  rw [trimEnd_append, if_pos (trimEnd_eq_empty_iff.mpr h)]

/-- There is nothing to remove in front of a text that does not begin with white space. -/
theorem trim_eq_trimEnd {text : String} (h : ∀ c ∈ text.toList.head?, isBlank c = false) :
    trim text = trimEnd text := by
  have hfront : text.toList.dropWhile isBlank = text.toList := by
    cases hchars : text.toList with
    | nil => rfl
    | cons c rest =>
      have hc : isBlank c = false := h c (by rw [hchars]; rfl)
      exact List.dropWhile_cons_of_neg (Bool.eq_false_iff.mp hc)
  rw [trim, hfront, trimEnd]

end AuditSearch.Text
