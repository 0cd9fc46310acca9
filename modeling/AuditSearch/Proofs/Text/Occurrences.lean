import AuditSearch.Proofs.Text.Pieces

/-!
# What comes after a mark

`Followed` says something of everything that comes after a mark in a text, wherever the mark stands
in it, and `Unmarked` that it stands nowhere. A text is gone through from the front: the mark cannot
begin in a text without its first letter (`Followed.behind`), and it cannot reach over a character
that it lacks (`Unmarked.append`).
-/

namespace AuditSearch.Text

/-- Wherever the mark stands in the text, `p` holds of what comes after it. -/
def Followed (mark : String) (p : String → Prop) (text : String) : Prop :=
  ∀ before after, text = before ++ mark ++ after → p after

/-- The mark stands nowhere in the text. -/
def Unmarked (mark text : String) : Prop :=
  Followed mark (fun _ => False) text

section
variable {mark text more : String} {p : String → Prop}

theorem followed_iff_chars : Followed mark p text ↔
    ∀ before after, text.toList = before ++ (mark.toList ++ after) → p (String.ofList after) := by
  constructor
  · intro h before after heq
    refine h (String.ofList before) (String.ofList after) (String.toList_inj.mp ?_)
    simpa using heq
  · rintro h before after rfl
    rw [← String.ofList_toList (s := after)]
    refine h before.toList after.toList ?_
    simp

theorem Unmarked.followed (h : Unmarked mark text) : Followed mark p text :=
  fun before after heq => (h before after heq).elim

theorem unmarked_of_lacks {c : Char} (hc : c ∈ mark.toList) (h : Lacks c text) :
    Unmarked mark text := by
  rintro before after rfl
  exact (lacks_append.mp (lacks_append.mp h).1).2 hc

/-- The mark does not begin in a text without its first letter. -/
theorem Followed.behind {c : Char} {tail : List Char} (hmark : mark.toList = c :: tail)
    (htext : Lacks c text) (h : Followed mark p more) : Followed mark p (text ++ more) := by
  rw [followed_iff_chars] at h ⊢
  intro before after heq
  rw [String.toList_append] at heq
  rcases List.append_eq_append_iff.mp heq with ⟨lead, -, hmore⟩ | ⟨lead, hlead, hrest⟩
  · exact h lead after hmore
  · cases lead with
    | nil => exact h [] after hrest.symm
    | cons d lead =>
      rw [hmark, List.cons_append, List.cons_append, List.cons.injEq] at hrest
      exact absurd (by simp [hlead, hrest.1]) htext

/-- The mark does not reach over a character that it lacks. -/
theorem Unmarked.append {c : Char} {stop : String} (hstop : stop = String.singleton c)
    (hc : Lacks c mark) (h : Unmarked mark text) (hmore : Followed mark p more) :
    Followed mark p (text ++ (stop ++ more)) := by
  subst hstop
  unfold Unmarked at h
  rw [followed_iff_chars] at h hmore ⊢
  intro before after heq
  rw [String.toList_append, String.toList_append, String.toList_singleton,
    List.singleton_append] at heq
  rcases List.append_eq_append_iff.mp heq with ⟨lead, hbefore, hmarked⟩ | ⟨lead, htext, hrest⟩
  · cases lead with
    | nil =>
      cases hmark : mark.toList with
      | nil =>
        refine (h [] text.toList ?_).elim
        rw [hmark, List.nil_append, List.nil_append]
      | cons d tail =>
        rw [hmark, List.nil_append, List.cons_append, List.cons.injEq] at hmarked
        exact absurd (by simp [hmark, hmarked.1]) hc
    | cons d lead =>
      rw [List.cons_append, List.cons.injEq] at hmarked
      exact hmore lead after hmarked.2
  · -- The mark begins in the text.
    rcases List.append_eq_append_iff.mp hrest with ⟨tail, hlead, -⟩ | ⟨tail, hopen, hclose⟩
    · exact (h before tail (htext.trans (congrArg _ hlead))).elim
    · cases tail with
      | nil =>
        refine (h before [] ?_).elim
        rw [htext, hopen, List.append_nil, List.append_nil]
      | cons d tail =>
        rw [List.cons_append, List.cons.injEq] at hclose
        exact absurd (by simp [hopen, hclose.1]) hc

/-- A mark that begins the text begins again only behind its first letter. -/
theorem Followed.of_mark {c : Char} {tail : String} (hmark : mark = String.singleton c ++ tail)
    (hp : p more) (h : Followed mark p (tail ++ more)) : Followed mark p (mark ++ more) := by
  have hchars : (mark ++ more).toList = c :: (tail ++ more).toList := by
    rw [hmark, String.append_assoc, String.toList_append, String.toList_singleton,
      List.singleton_append]
  rw [followed_iff_chars] at h ⊢
  intro before after heq
  cases before with
  | nil =>
    rw [String.toList_append, List.nil_append, List.append_right_inj] at heq
    rwa [← heq, String.ofList_toList]
  | cons d before =>
    rw [hchars, List.cons_append, List.cons.injEq] at heq
    exact h before after heq.2

end

end AuditSearch.Text
