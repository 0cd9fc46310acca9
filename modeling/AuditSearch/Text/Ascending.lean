import Std.Data.ExtTreeSet

/-!
# Names in ascending order

Texts are ordered by their characters, which is the order of their UTF-8 bytes. `ascending`
lists the members of a list in strictly ascending order, so it depends on the members alone
(`ascending_congr`).
-/

namespace AuditSearch.Text

/-- The distinct members of `names`, in ascending order. -/
def ascending (names : List String) : List String :=
  (Std.ExtTreeSet.ofList names compare).toList

@[simp] theorem mem_ascending {names : List String} {name : String} :
    name ∈ ascending names ↔ name ∈ names := by
  simp [ascending]

theorem pairwise_ascending (names : List String) :
    (ascending names).Pairwise (fun a b => compare a b = .lt) :=
  Std.ExtTreeSet.ordered_toList

/-- The listing forgets order and repeats. -/
theorem ascending_congr {names others : List String}
    (h : ∀ name, name ∈ names ↔ name ∈ others) :
    ascending names = ascending others := by
  unfold ascending
  congr 1
  apply Std.ExtTreeSet.ext_mem
  simpa using h

end AuditSearch.Text
