import AuditSearch.Text.Split

/-!
# Printed queries

Queries are printed for people, with underlined titles and one stage a line, or for programs,
as bare texts separated by NUL characters.
-/

namespace AuditSearch.Report

/-- A query with the title under which it is printed. -/
structure Titled where
  title : String
  query : String
deriving DecidableEq, Repr

/-- A query of this many bytes or more is printed with every stage on a line of its own. -/
def longQuery : Nat := 60

/-- A line of dashes, one for each byte of the title. -/
def underline (title : String) : String :=
  String.ofList (List.replicate title.utf8ByteSize '-')

/-- The lines of a query before they are indented. A bar stays with the stage that follows it. -/
def queryLines (query : String) : List String :=
  if query.utf8ByteSize < longQuery then [query]
  else match Text.splitAt '|' query with
    | [] => []
    | first :: rest => first :: rest.map ("|" ++ ·)

def Titled.lines (titled : Titled) : List String :=
  titled.title :: underline titled.title :: (queryLines titled.query).map ("    " ++ ·)

/-- The blocks of the queries, with an empty line between them. -/
def pretty (queries : List Titled) : String :=
  "\n\n".intercalate (queries.map fun titled => "\n".intercalate titled.lines)

/-- The texts of the queries, separated by NUL characters. -/
def machine (queries : List Titled) : String :=
  "\x00".intercalate (queries.map Titled.query)

/-- How queries are printed. -/
inductive Layout where
  | pretty
  | machine
deriving DecidableEq, Repr, Inhabited

namespace Layout

def name : Layout → String
  | pretty => "pretty"
  | machine => "machine"

/-- The output of a program that prints `queries`. A printout for people ends its last line. -/
def print (layout : Layout) (queries : List Titled) : String :=
  match layout with
  | pretty => Report.pretty queries ++ (if queries = [] then "" else "\n")
  | machine => Report.machine queries

end Layout

end AuditSearch.Report
