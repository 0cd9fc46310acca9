/-!
# White space of the Unicode standard

`isBlank` is the property White_Space, and `trim` removes it at both ends of a text.
-/

namespace AuditSearch.Text

/-- The code points with the property White_Space, as closed ranges in ascending order. -/
def blankRanges : List (Nat × Nat) :=
  [(0x09, 0x0D), (0x20, 0x20), (0x85, 0x85), (0xA0, 0xA0), (0x1680, 0x1680), (0x2000, 0x200A),
    (0x2028, 0x2029), (0x202F, 0x202F), (0x205F, 0x205F), (0x3000, 0x3000)]

def isBlank (c : Char) : Bool :=
  blankRanges.any fun (first, last) => first ≤ c.toNat && c.toNat ≤ last

/-- The property has 25 members. -/
example : (blankRanges.map fun (first, last) => last - first + 1).sum = 25 := by decide

/-- The ranges are ascending and do not meet. -/
example : blankRanges.Pairwise (fun a b => a.2 < b.1) := by decide

/-- White space in ASCII texts is white space. -/
theorem isBlank_of_isWhitespace {c : Char} (h : c.isWhitespace = true) : isBlank c = true := by
  simp only [Char.isWhitespace, Bool.or_eq_true, decide_eq_true_eq] at h
  rcases h with ((rfl | rfl) | rfl) | rfl <;> decide

def trimCharsEnd (cs : List Char) : List Char :=
  (cs.reverse.dropWhile isBlank).reverse

/-- Removes white space at the end. -/
def trimEnd (text : String) : String :=
  String.ofList (trimCharsEnd text.toList)

/-- Removes white space at both ends. -/
def trim (text : String) : String :=
  String.ofList (trimCharsEnd (text.toList.dropWhile isBlank))

end AuditSearch.Text
