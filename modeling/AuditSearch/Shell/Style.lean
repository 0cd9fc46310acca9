/-!
# Colours on a terminal
-/

namespace AuditSearch.Shell

inductive Style where
  | heading
  | label
  | muted
  | failure
deriving DecidableEq, Repr

namespace Style

/-- The sequence that switches a style on: bright cyan, bright blue, bright black or bold red. -/
def opening : Style → String
  | heading => "\x1b[96m"
  | label => "\x1b[94m"
  | muted => "\x1b[90m"
  | failure => "\x1b[1;31m"

/-- The sequence that switches every style off. -/
def closing : String := "\x1b[0m"

/-- Switches a style on again wherever the text switches all styles off. -/
def reopen (opening : List Char) : List Char → List Char
  | '\x1b' :: '[' :: '0' :: 'm' :: rest => closing.toList ++ opening ++ reopen opening rest
  | c :: rest => c :: reopen opening rest
  | [] => []

/-- The text in a style, if colours are on. -/
def paint (style : Style) (colour : Bool) (text : String) : String :=
  if colour then
    style.opening ++ String.ofList (reopen style.opening.toList text.toList) ++ closing
  else text

end Style

end AuditSearch.Shell
