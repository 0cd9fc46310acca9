import AuditSearch.Text.Ascending
import Mathlib.Data.List.Sort
import Mathlib.Data.String.Basic

/-!
# The order of texts is the order of their UTF-8 bytes

Texts are compared by their characters. Comparing the bytes of their encodings gives the same
order (`bytes_lt_bytes`): the encodings of two characters differ at a byte that is smaller for the
smaller character, whatever follows them (`encoding_append_lt`). Lists of names in ascending order
of their bytes are determined by their members (`Ascending.eq_of_mem_iff`), and `ascending` gives
the list with the members of any list.
-/

namespace AuditSearch.Text

/-- The encoding of a text in UTF-8. -/
def bytes (text : String) : List UInt8 :=
  text.toUTF8.data.toList

theorem bytes_eq_flatMap (text : String) :
    bytes text = text.toList.flatMap String.utf8EncodeChar := by
  have h : text.toUTF8 = text.toList.utf8Encode := String.utf8Encode_toList.symm
  rw [bytes, h, List.utf8Encode, List.data_toByteArray]

/-! ## The encoding of one character -/

theorem toNat_ofNat_of_ascii {n : Nat} (h : n ≤ 0x7f) : (UInt8.ofNat n).toNat = n := by
  rw [UInt8.toNat_ofNat', Nat.mod_eq_of_lt (by omega)]

/-- The digits of a code point leave room for the mark that a byte bears. -/
theorem toNat_ofNat_mod_add {n m k : Nat} (hm : 0 < m) (h : m + k ≤ 256) :
    (UInt8.ofNat (n % m + k)).toNat = n % m + k := by
  have hn := Nat.mod_lt n hm
  rw [UInt8.toNat_ofNat', Nat.mod_eq_of_lt (by omega)]

/-- The order of code points is the order of their four digits in base 64. -/
theorem digits_lt {v w : Nat} (h : v < w) (hw : w < 0x110000) :
    v / 262144 % 8 < w / 262144 % 8 ∨ v / 262144 % 8 = w / 262144 % 8 ∧
      (v / 4096 % 64 < w / 4096 % 64 ∨ v / 4096 % 64 = w / 4096 % 64 ∧
        (v / 64 % 64 < w / 64 % 64 ∨ v / 64 % 64 = w / 64 % 64 ∧ v % 64 < w % 64)) := by
  have h₁ : v / 64 ≤ w / 64 := Nat.div_le_div_right (Nat.le_of_lt h)
  have h₂ : v / 4096 ≤ w / 4096 := Nat.div_le_div_right (Nat.le_of_lt h)
  have h₃ : v / 262144 ≤ w / 262144 := Nat.div_le_div_right (Nat.le_of_lt h)
  rcases Nat.eq_or_lt_of_le h₃ with heq₃ | hlt₃
  · refine .inr ⟨by omega, ?_⟩
    rcases Nat.eq_or_lt_of_le h₂ with heq₂ | hlt₂
    · refine .inr ⟨by omega, ?_⟩
      rcases Nat.eq_or_lt_of_le h₁ with heq₁ | hlt₁
      · exact .inr ⟨by omega, by omega⟩
      · exact .inl (by omega)
    · exact .inl (by omega)
  · exact .inl (by omega)

/-- No encoding is the start of another, so what follows the two characters does not matter. -/
theorem encoding_append_lt {c d : Char} (h : c < d) (s t : List UInt8) :
    String.utf8EncodeChar c ++ s < String.utf8EncodeChar d ++ t := by
  have hv : c.val.toNat < d.val.toNat := h
  have hd : d.val.toNat < 0x110000 := by
    have hvalid := d.valid
    simp only [UInt32.isValidChar, Nat.isValidChar] at hvalid
    omega
  have hdigits := digits_lt hv hd
  unfold String.utf8EncodeChar
  dsimp only
  -- A longer encoding has a larger first byte; for equal lengths the digits decide.
  split_ifs <;>
    simp (disch := first | assumption | decide) only [List.cons_append, List.nil_append,
      List.cons_lt_cons_iff, UInt8.lt_iff_toNat_lt, ← UInt8.toNat_inj, toNat_ofNat_mod_add,
      toNat_ofNat_of_ascii] <;>
    omega

/-! ## Texts -/

theorem flatMap_encoding_lt {l m : List Char} (h : l < m) :
    l.flatMap String.utf8EncodeChar < m.flatMap String.utf8EncodeChar := by
  induction m generalizing l with
  | nil => exact absurd h (List.not_lt_nil l)
  | cons d m ih =>
    cases l with
    | nil =>
      obtain ⟨b, bs, hd⟩ := List.exists_cons_of_ne_nil (String.utf8EncodeChar_ne_nil (c := d))
      rw [List.flatMap_cons, hd]
      exact List.nil_lt_cons b _
    | cons c l =>
      rw [List.flatMap_cons, List.flatMap_cons]
      rcases List.cons_lt_cons_iff.mp h with hc | ⟨rfl, hl⟩
      · exact encoding_append_lt hc _ _
      · exact List.append_left_lt (ih hl)

theorem bytes_lt_of_lt {a b : String} (h : a < b) : bytes a < bytes b := by
  rw [bytes_eq_flatMap, bytes_eq_flatMap]
  exact flatMap_encoding_lt h

theorem bytes_lt_bytes {a b : String} : bytes a < bytes b ↔ a < b := by
  refine ⟨fun h => ?_, bytes_lt_of_lt⟩
  rcases lt_trichotomy a b with hlt | rfl | hgt
  · exact hlt
  · exact absurd h (List.lt_irrefl _)
  · exact absurd (List.lt_trans h (bytes_lt_of_lt hgt)) (List.lt_irrefl _)

theorem bytes_le_bytes {a b : String} : bytes a ≤ bytes b ↔ a ≤ b := by
  rw [← List.not_lt, bytes_lt_bytes, String.not_lt]

theorem compare_eq_lt {a b : String} : compare a b = .lt ↔ a < b :=
  compareOfLessAndEq_eq_lt

/-! ## Ascending lists -/

/-- The names stand in strictly ascending order of their bytes, so none is repeated. -/
def Ascending (names : List String) : Prop :=
  names.Pairwise fun a b => bytes a < bytes b

theorem Ascending.eq_of_mem_iff {names others : List String} (h : Ascending names)
    (h' : Ascending others) (hmem : ∀ name, name ∈ names ↔ name ∈ others) : names = others := by
  have hlt : names.Pairwise (· < ·) := h.imp bytes_lt_bytes.mp
  have hlt' : others.Pairwise (· < ·) := h'.imp bytes_lt_bytes.mp
  exact hlt.eq_of_mem_iff hlt' hmem

theorem ascending_ascending (names : List String) : Ascending (ascending names) :=
  (pairwise_ascending names).imp fun h => bytes_lt_bytes.mpr (compare_eq_lt.mp h)

/-- The order of the names does not depend on which others are there. -/
theorem ascending_sublist {names more : List String} (h : names ⊆ more) :
    (ascending names).Sublist (ascending more) := by
  have hlt : ∀ names, (ascending names).Pairwise (· < ·) :=
    fun names => (pairwise_ascending names).imp compare_eq_lt.mp
  have hsubset : ascending names ⊆ ascending more := by
    intro name hname
    exact mem_ascending.mpr (h (mem_ascending.mp hname))
  exact List.sublist_of_subperm_of_pairwise (List.subperm_of_subset (hlt names).nodup hsubset)
    (hlt names) (hlt more)

theorem mergeSort_eq_ascending {names : List String} (h : names.Nodup) :
    names.mergeSort (fun a b => a ≤ b) = ascending names := by
  have hperm := List.mergeSort_perm names fun a b => a ≤ b
  have hle : (names.mergeSort fun a b => a ≤ b).Pairwise (· ≤ ·) :=
    List.pairwise_mergeSort' (· ≤ ·) names
  have hlt : (names.mergeSort fun a b => a ≤ b).Pairwise (· < ·) :=
    (hle.and (hperm.nodup_iff.mpr h)).imp fun hab => lt_of_le_of_ne hab.1 hab.2
  refine Ascending.eq_of_mem_iff (hlt.imp bytes_lt_bytes.mpr) (ascending_ascending names) ?_
  intro name
  rw [hperm.mem_iff, mem_ascending]

end AuditSearch.Text
