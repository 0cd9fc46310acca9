/-!
# Cutting a text at one character

`splitAt` cuts a text at every occurrence of a separator. Nothing but the separators is lost
(`intercalate_splitChars`), and a join of pieces that hold no separator is cut back into the
same pieces (`splitChars_intercalate`).
-/

namespace AuditSearch.Text

/-- The pieces between the separators. There is one piece more than there are separators, and a
piece may be empty. -/
def splitChars (sep : Char) : List Char → List (List Char)
  | [] => [[]]
  | c :: cs =>
    if c = sep then [] :: splitChars sep cs
    else match splitChars sep cs with
      | [] => [[c]]
      | piece :: pieces => (c :: piece) :: pieces

/-- `splitChars` on texts. -/
def splitAt (sep : Char) (text : String) : List String :=
  (splitChars sep text.toList).map String.ofList

theorem splitChars_ne_nil (sep : Char) (cs : List Char) : splitChars sep cs ≠ [] := by
  cases cs with
  | nil => simp [splitChars]
  | cons c cs =>
    simp only [splitChars]
    split
    · simp
    · split <;> simp

/-- Joining the pieces by the separator gives the text back. -/
theorem intercalate_splitChars (sep : Char) (cs : List Char) :
    [sep].intercalate (splitChars sep cs) = cs := by
  induction cs with
  | nil => simp [splitChars, List.intercalate]
  | cons c cs ih =>
    obtain ⟨piece, pieces, h⟩ := List.exists_cons_of_ne_nil (splitChars_ne_nil sep cs)
    rw [h] at ih
    simp only [splitChars, h]
    split
    · next hc =>
      rw [← ih, hc]
      simp [List.intercalate, List.intersperse]
    · cases pieces with
      | nil => simpa [List.intercalate, List.intersperse] using ih
      | cons q qs => simpa [List.intercalate, List.intersperse] using ih

/-- A piece without separators in front of a separator is the first piece. -/
theorem splitChars_append_sep (sep : Char) {piece : List Char} (h : sep ∉ piece)
    (rest : List Char) :
    splitChars sep (piece ++ sep :: rest) = piece :: splitChars sep rest := by
  induction piece with
  | nil => simp [splitChars]
  | cons c cs ih =>
    simp only [List.mem_cons, not_or] at h
    simp only [List.cons_append, splitChars, ih h.2, if_neg (Ne.symm h.1)]

/-- A text without separators is one piece. -/
theorem splitChars_of_not_mem (sep : Char) {cs : List Char} (h : sep ∉ cs) :
    splitChars sep cs = [cs] := by
  induction cs with
  | nil => rfl
  | cons c cs ih =>
    simp only [List.mem_cons, not_or] at h
    simp only [splitChars, ih h.2, if_neg (Ne.symm h.1)]

/-- Pieces that hold no separator are found again in their join. -/
theorem splitChars_intercalate (sep : Char) (pieces : List (List Char)) (hne : pieces ≠ [])
    (h : ∀ piece ∈ pieces, sep ∉ piece) :
    splitChars sep ([sep].intercalate pieces) = pieces := by
  induction pieces with
  | nil => exact absurd rfl hne
  | cons piece rest ih =>
    cases rest with
    | nil => simpa [List.intercalate] using splitChars_of_not_mem sep (h piece (by simp))
    | cons q qs =>
      have hq := ih (by simp) (fun p hp => h p (List.mem_cons_of_mem _ hp))
      have hp := splitChars_append_sep sep (h piece (by simp)) ([sep].intercalate (q :: qs))
      rw [hq] at hp
      simpa [List.intercalate, List.intersperse] using hp

end AuditSearch.Text
