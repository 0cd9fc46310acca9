import AuditSearch.Proofs.Text.ByteOrder
import AuditSearch.Text.Blank
import AuditSearch.Text.Split

/-!
# Joining texts and cutting them again

Cutting at a character undoes joining by it, if the texts that were joined lack the character
(`splitAt_intercalate`). A text is joined from its pieces (`intercalate_splitAt`), which lack the
character and are one more than its occurrences (`lacks_of_mem_splitAt`, `length_splitAt`).
-/

namespace AuditSearch.Text

/-- The character does not occur in the text. -/
def Lacks (sep : Char) (text : String) : Prop :=
  sep ∉ text.toList

/-- A byte below 128 encodes a character by itself and is part of no other encoding. -/
theorem mem_encoding_iff {sep c : Char} (h : sep.toNat ≤ 0x7f) :
    UInt8.ofNat sep.toNat ∈ String.utf8EncodeChar c ↔ sep = c := by
  have hsep : (UInt8.ofNat sep.toNat).toNat = sep.toNat := toNat_ofNat_of_ascii h
  by_cases hc : c.val.toNat ≤ 0x7f
  · have hbyte : (UInt8.ofNat c.val.toNat).toNat = c.toNat := toNat_ofNat_of_ascii hc
    unfold String.utf8EncodeChar
    dsimp only
    rw [if_pos hc, List.mem_singleton, ← UInt8.toNat_inj, hsep, hbyte, Char.toNat_inj]
  · have hne : sep ≠ c := by
      rintro rfl
      exact hc h
    have hlarge : ∀ byte ∈ String.utf8EncodeChar c, 0x80 ≤ byte.toNat := by
      unfold String.utf8EncodeChar
      dsimp only
      rw [if_neg hc]
      split_ifs <;>
        simp (disch := decide) only [List.forall_mem_cons, List.not_mem_nil, false_implies, implies_true,
          and_true, toNat_ofNat_mod_add] <;>
        omega
    refine ⟨fun hmem => ?_, fun heq => absurd heq hne⟩
    have hle := hlarge _ hmem
    omega

theorem mem_bytes_iff {sep : Char} (h : sep.toNat ≤ 0x7f) {text : String} :
    UInt8.ofNat sep.toNat ∈ bytes text ↔ sep ∈ text.toList := by
  rw [bytes_eq_flatMap, List.mem_flatMap]
  simp only [mem_encoding_iff h, exists_eq_right']

/-- Of a text that is given as a literal the bytes are at hand, and the characters are not. -/
instance (sep : Char) (text : String) : Decidable (Lacks sep text) :=
  if h : sep.toNat ≤ 0x7f then
    decidable_of_iff (UInt8.ofNat sep.toNat ∉ bytes text) (not_congr (mem_bytes_iff h))
  else inferInstanceAs (Decidable (sep ∉ text.toList))

section
variable {sep : Char} {text more : String} {texts : List String}

theorem lacks_append : Lacks sep (text ++ more) ↔ Lacks sep text ∧ Lacks sep more := by
  unfold Lacks
  rw [String.toList_append, List.mem_append, not_or]

theorem Lacks.append (h : Lacks sep text) (hmore : Lacks sep more) : Lacks sep (text ++ more) :=
  lacks_append.mpr ⟨h, hmore⟩

theorem lacks_join : Lacks sep (String.join texts) ↔ ∀ text ∈ texts, Lacks sep text := by
  unfold Lacks
  rw [String.toList_join, List.mem_flatMap]
  simp only [not_exists, not_and]

theorem Lacks.join (h : ∀ text ∈ texts, Lacks sep text) : Lacks sep (String.join texts) :=
  lacks_join.mpr h

theorem intercalate_eq_join (separator head : String) (rest : List String) :
    separator.intercalate (head :: rest) = head ++ String.join (rest.map (separator ++ ·)) := by
  induction rest generalizing head with
  | nil => simp
  | cons next rest ih =>
    rw [String.intercalate_cons_cons, ih next, List.map_cons, String.join_cons]
    simp only [String.append_assoc]

theorem Lacks.intercalate {separator : String} (hseparator : Lacks sep separator)
    (h : ∀ text ∈ texts, Lacks sep text) : Lacks sep (separator.intercalate texts) := by
  cases texts with
  | nil => exact List.not_mem_nil
  | cons head rest =>
    rw [List.forall_mem_cons] at h
    rw [intercalate_eq_join]
    refine h.1.append (.join ?_)
    simp only [List.forall_mem_map]
    exact fun text htext => hseparator.append (h.2 text htext)

theorem trim_sublist (text : String) : (trim text).toList.Sublist text.toList := by
  unfold trim trimCharsEnd
  rw [String.toList_ofList]
  refine List.Sublist.trans ?_ (List.dropWhile_sublist isBlank)
  rw [← List.reverse_sublist, List.reverse_reverse]
  exact List.dropWhile_sublist isBlank

theorem Lacks.trim (h : Lacks sep text) : Lacks sep (Text.trim text) :=
  fun hmem => h ((trim_sublist text).subset hmem)

end

/-! ## Pieces -/

section
variable (sep : Char)

theorem not_mem_of_mem_splitChars {cs piece : List Char} (h : piece ∈ splitChars sep cs) :
    sep ∉ piece := by
  induction cs generalizing piece with
  | nil =>
    rw [splitChars, List.mem_singleton] at h
    rw [h]
    exact List.not_mem_nil
  | cons c cs ih =>
    obtain ⟨first, rest, hsplit⟩ := List.exists_cons_of_ne_nil (splitChars_ne_nil sep cs)
    rw [splitChars] at h
    split_ifs at h with hc
    · rcases List.mem_cons.mp h with rfl | hmem
      · exact List.not_mem_nil
      · exact ih hmem
    · simp only [hsplit] at h ih
      rcases List.mem_cons.mp h with rfl | hmem
      · exact List.not_mem_cons_of_ne_of_not_mem (Ne.symm hc) (ih List.mem_cons_self)
      · exact ih (List.mem_cons_of_mem first hmem)

theorem length_splitChars (cs : List Char) :
    (splitChars sep cs).length = cs.count sep + 1 := by
  induction cs with
  | nil => rfl
  | cons c cs ih =>
    obtain ⟨first, rest, hsplit⟩ := List.exists_cons_of_ne_nil (splitChars_ne_nil sep cs)
    rw [splitChars]
    split_ifs with hc
    · rw [hc, List.length_cons, List.count_cons_self, ih]
    · rw [List.count_cons_of_ne hc, ← ih]
      simp only [hsplit, List.length_cons]

theorem splitChars_append (cs more : List Char) :
    splitChars sep (cs ++ sep :: more) = splitChars sep cs ++ splitChars sep more := by
  induction cs with
  | nil => simp [splitChars]
  | cons c cs ih =>
    obtain ⟨first, rest, hsplit⟩ := List.exists_cons_of_ne_nil (splitChars_ne_nil sep cs)
    rw [List.cons_append, splitChars, splitChars, ih, hsplit]
    split_ifs <;> rfl

/-- A text is cut at a separator into the pieces in front of it and those behind it. -/
theorem splitAt_append (text more : String) :
    splitAt sep (text ++ String.singleton sep ++ more) = splitAt sep text ++ splitAt sep more := by
  have hchars : (text ++ String.singleton sep ++ more).toList =
      text.toList ++ sep :: more.toList := by
    rw [String.toList_append, String.toList_append, String.toList_singleton, List.append_assoc,
      List.singleton_append]
  rw [splitAt, hchars, splitChars_append, List.map_append, splitAt, splitAt]

variable {sep}

theorem splitAt_of_lacks {text : String} (h : Lacks sep text) : splitAt sep text = [text] := by
  rw [splitAt, splitChars_of_not_mem sep h, List.map_singleton, String.ofList_toList]

/-- The text in front of a separator ends at the first one, if it has none itself. -/
theorem append_singleton_inj {text other rest more : String} (h : Lacks sep text)
    (h' : Lacks sep other)
    (heq : text ++ String.singleton sep ++ rest = other ++ String.singleton sep ++ more) :
    text = other ∧ rest = more := by
  have hsplit := congrArg (splitAt sep) heq
  rw [splitAt_append, splitAt_append, splitAt_of_lacks h, splitAt_of_lacks h',
    List.singleton_append, List.singleton_append, List.cons.injEq] at hsplit
  obtain ⟨rfl, -⟩ := hsplit
  exact ⟨rfl, (String.append_right_inj _).mp heq⟩

theorem lacks_of_mem_splitAt {text piece : String} (h : piece ∈ splitAt sep text) :
    Lacks sep piece := by
  obtain ⟨chars, hchars, rfl⟩ := List.mem_map.mp h
  unfold Lacks
  rw [String.toList_ofList]
  exact not_mem_of_mem_splitChars sep hchars

theorem length_splitAt (text : String) :
    (splitAt sep text).length = text.toList.count sep + 1 := by
  rw [splitAt, List.length_map, length_splitChars]

theorem splitAt_ne_nil (text : String) : splitAt sep text ≠ [] := by
  rw [splitAt, ne_eq, List.map_eq_nil_iff]
  exact splitChars_ne_nil sep text.toList

theorem toList_intercalate_singleton (texts : List String) :
    ((String.singleton sep).intercalate texts).toList = [sep].intercalate (texts.map String.toList) := by
  rw [String.toList_intercalate, String.toList_singleton]

theorem intercalate_splitAt (text : String) :
    (String.singleton sep).intercalate (splitAt sep text) = text := by
  apply String.toList_inj.mp
  have htoList : (splitAt sep text).map String.toList = splitChars sep text.toList := by
    rw [splitAt, List.map_map]
    exact List.map_id'' (fun chars => String.toList_ofList) _
  rw [toList_intercalate_singleton, htoList, intercalate_splitChars]

/-- Texts that lack the character are found again in their join. -/
theorem splitAt_intercalate {texts : List String} (hne : texts ≠ [])
    (h : ∀ text ∈ texts, Lacks sep text) :
    splitAt sep ((String.singleton sep).intercalate texts) = texts := by
  have hpieces : ∀ piece ∈ texts.map String.toList, sep ∉ piece := List.forall_mem_map.mpr h
  have hne' : texts.map String.toList ≠ [] := mt List.map_eq_nil_iff.mp hne
  rw [splitAt, toList_intercalate_singleton, splitChars_intercalate sep _ hne' hpieces,
    List.map_map]
  exact List.map_id'' (fun text => String.ofList_toList) _

end

end AuditSearch.Text
