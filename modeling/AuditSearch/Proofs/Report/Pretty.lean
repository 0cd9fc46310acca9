import AuditSearch.Proofs.Text.Pieces
import AuditSearch.Report.Printout

/-!
# Reading printouts for people

`decode?` reads a printout line by line and refuses what is not laid out like one. A block ends at
the first empty line after its underline: a title may be empty, or look like an underline or a
query, but it is known by its place, and the lines of a query are never empty. So titles and
queries of one line each are read back from their printout (`decode?_pretty`).
-/

namespace AuditSearch.Report

open Text

/-! ## Reading -/

/-- Which line of a block comes next. -/
inductive Expected where
  | title
  | underline (title : String)
  /-- A line of the query, whose lines so far are `pieces`, or else the end of the block. -/
  | query (title : String) (pieces : List String)
deriving DecidableEq, Repr

/-- A printout that has been read in part. -/
structure Decoding where
  blocks : List Titled := []
  expected : Expected := .title
deriving DecidableEq, Repr

namespace Decoding

def indented? : List Char → Option String
  | ' ' :: ' ' :: ' ' :: ' ' :: rest => some (String.ofList rest)
  | _ => none

/-- All blocks, if one can end here. -/
def finish (decoding : Decoding) : Option (List Titled) :=
  match decoding.expected with
  | .query _ [] => none
  | .query title pieces => some (decoding.blocks ++ [⟨title, String.join pieces⟩])
  | _ => none

def next (decoding : Decoding) (line : String) : Option Decoding :=
  match decoding.expected with
  | .title => some { decoding with expected := .underline line }
  | .underline title =>
    if line = String.ofList (List.replicate title.utf8ByteSize '-') then
      some { decoding with expected := .query title [] }
    else none
  | .query title pieces =>
    if line = "" then (fun blocks => ⟨blocks, .title⟩) <$> decoding.finish
    else (fun piece => { decoding with expected := .query title (pieces ++ [piece]) }) <$>
      indented? line.toList

end Decoding

/-- The titles and queries of a printout. A text without any lines prints nothing. -/
def decode? (text : String) : Option (List Titled) :=
  let lines := splitAt '\n' text
  if lines = [""] then some [] else (lines.foldlM Decoding.next {}).bind Decoding.finish

/-! ## The lines of a query -/

/-- How a query is laid out: on one line if it is short, and otherwise cut at the bars, which stay
in front of the lines that they open. -/
structure Spread (query : String) (lines : List String) : Prop where
  ne_nil : lines ≠ []
  join_eq : String.join lines = query
  short : query.utf8ByteSize < 60 → lines = [query]
  length_eq : 60 ≤ query.utf8ByteSize → lines.length = query.toList.count '|' + 1
  long : 60 ≤ query.utf8ByteSize → ∃ first rest, lines = first :: rest.map ("|" ++ ·) ∧
    ∀ piece ∈ first :: rest, Lacks '|' piece

theorem queryLines_of_short {query : String} (h : query.utf8ByteSize < 60) :
    queryLines query = [query] :=
  if_pos h

theorem queryLines_of_long {query : String} (h : 60 ≤ query.utf8ByteSize) :
    ∃ first rest, splitAt '|' query = first :: rest ∧
      queryLines query = first :: rest.map ("|" ++ ·) := by
  have hne : splitAt '|' query ≠ [] := splitAt_ne_nil query
  obtain ⟨first, rest, hsplit⟩ := List.exists_cons_of_ne_nil hne
  refine ⟨first, rest, hsplit, ?_⟩
  unfold queryLines longQuery
  rw [if_neg (Nat.not_lt.mpr h), hsplit]

theorem spread_of_short {query : String} (h : query.utf8ByteSize < 60) :
    Spread query [query] where
  ne_nil := List.cons_ne_nil _ _
  join_eq := by rw [String.join_cons, String.join_nil, String.append_empty]
  short _ := rfl
  length_eq hlong := absurd h (Nat.not_lt.mpr hlong)
  long hlong := absurd h (Nat.not_lt.mpr hlong)

theorem spread_of_long {query first : String} {rest : List String}
    (h : 60 ≤ query.utf8ByteSize) (hsplit : splitAt '|' query = first :: rest) :
    Spread query (first :: rest.map ("|" ++ ·)) where
  ne_nil := List.cons_ne_nil _ _
  join_eq := by
    have hquery : "|".intercalate (splitAt '|' query) = query := intercalate_splitAt query
    rw [hsplit, intercalate_eq_join] at hquery
    rw [String.join_cons]
    exact hquery
  short hshort := absurd hshort (Nat.not_lt.mpr h)
  length_eq _ := by
    have hlength : (splitAt '|' query).length = query.toList.count '|' + 1 := length_splitAt query
    rw [hsplit, List.length_cons] at hlength
    rw [List.length_cons, List.length_map, hlength]
  long _ := by
    refine ⟨first, rest, rfl, fun piece hpiece => ?_⟩
    rw [← hsplit] at hpiece
    exact lacks_of_mem_splitAt hpiece

theorem spread_queryLines (query : String) : Spread query (queryLines query) := by
  by_cases h : query.utf8ByteSize < 60
  · rw [queryLines_of_short h]
    exact spread_of_short h
  · have hlong : 60 ≤ query.utf8ByteSize := Nat.not_lt.mp h
    obtain ⟨first, rest, hsplit, hlines⟩ := queryLines_of_long hlong
    rw [hlines]
    exact spread_of_long hlong hsplit

/-! ## The lines of a printout -/

/-- Neither the title nor the query holds the end of a line. -/
def Titled.OneLine (titled : Titled) : Prop :=
  Lacks '\n' titled.title ∧ Lacks '\n' titled.query

instance (titled : Titled) : Decidable titled.OneLine :=
  inferInstanceAs (Decidable (Lacks '\n' titled.title ∧ Lacks '\n' titled.query))

theorem Titled.OneLine.lines {titled : Titled} (h : titled.OneLine) :
    ∀ line ∈ titled.lines, Lacks '\n' line := by
  have hunderline : Lacks '\n' (underline titled.title) := by
    unfold Lacks underline
    rw [String.toList_ofList]
    exact fun hmem => absurd (List.eq_of_mem_replicate hmem) (by decide)
  have hquery : ∀ line ∈ queryLines titled.query, Lacks '\n' line := by
    rw [← lacks_join, (spread_queryLines titled.query).join_eq]
    exact h.2
  have hindent : Lacks '\n' "    " := by decide
  unfold Titled.lines
  rw [List.forall_mem_cons, List.forall_mem_cons, List.forall_mem_map]
  exact ⟨h.1, hunderline, fun line hline => hindent.append (hquery line hline)⟩

/-- The lines of all blocks, with an empty line between blocks. -/
def printedLines (queries : List Titled) : List String :=
  [""].intercalate (queries.map Titled.lines)

theorem printedLines_cons_cons (first next : Titled) (rest : List Titled) :
    printedLines (first :: next :: rest) = first.lines ++ "" :: printedLines (next :: rest) := by
  unfold printedLines
  rw [List.map_cons, List.map_cons, List.intercalate_cons_cons, List.append_assoc]
  rfl

theorem printedLines_eq_cons (first : Titled) (rest : List Titled) :
    ∃ more, printedLines (first :: rest) = first.title :: underline first.title :: more := by
  cases rest with
  | nil => exact ⟨_, List.intercalate_singleton⟩
  | cons next rest => exact ⟨_, printedLines_cons_cons first next rest⟩

theorem pretty_eq_intercalate (queries : List Titled) :
    pretty queries = "\n".intercalate (printedLines queries) := by
  induction queries with
  | nil => rfl
  | cons first rest ih =>
    cases rest with
    | nil =>
      unfold pretty printedLines
      rw [List.map_singleton, List.map_singleton, String.intercalate_singleton,
        List.intercalate_singleton]
    | cons next rest =>
      have hpretty : pretty (first :: next :: rest) =
          "\n".intercalate first.lines ++ "\n\n" ++ pretty (next :: rest) := by
        unfold pretty
        rw [List.map_cons, List.map_cons, String.intercalate_cons_cons]
      have hlines : first.lines ≠ [] := List.cons_ne_nil _ _
      have hnext : printedLines (next :: rest) ≠ [] := by
        obtain ⟨more, hmore⟩ := printedLines_eq_cons next rest
        rw [hmore]
        exact List.cons_ne_nil _ _
      have hgap : "\n\n" = "\n" ++ ("" ++ "\n") := by decide
      rw [hpretty, ih, printedLines_cons_cons,
        String.intercalate_append_of_ne_nil hlines (List.cons_ne_nil _ _),
        String.intercalate_cons_of_ne_nil hnext, hgap]
      simp only [String.append_assoc]

theorem lacks_printedLines {queries : List Titled} (h : ∀ titled ∈ queries, titled.OneLine) :
    ∀ line ∈ printedLines queries, Lacks '\n' line := by
  induction queries with
  | nil => exact List.forall_mem_nil _
  | cons first rest ih =>
    rw [List.forall_mem_cons] at h
    cases rest with
    | nil =>
      have hlines : printedLines [first] = first.lines := List.intercalate_singleton
      rw [hlines]
      exact h.1.lines
    | cons next rest =>
      have hempty : Lacks '\n' "" := List.not_mem_nil
      rw [printedLines_cons_cons, List.forall_mem_append, List.forall_mem_cons]
      exact ⟨h.1.lines, hempty, ih h.2⟩

theorem splitAt_pretty {queries : List Titled} (hne : queries ≠ [])
    (h : ∀ titled ∈ queries, titled.OneLine) :
    splitAt '\n' (pretty queries) = printedLines queries := by
  obtain ⟨first, rest, rfl⟩ := List.exists_cons_of_ne_nil hne
  obtain ⟨more, hmore⟩ := printedLines_eq_cons first rest
  have hlines : printedLines (first :: rest) ≠ [] := by
    rw [hmore]
    exact List.cons_ne_nil _ _
  rw [pretty_eq_intercalate]
  exact splitAt_intercalate hlines (lacks_printedLines h)

/-! ## What the lines are read as -/

namespace Decoding

variable {blocks : List Titled}

theorem next_title (title : String) :
    next ⟨blocks, .title⟩ title = some ⟨blocks, .underline title⟩ := rfl

theorem next_underline (title : String) :
    next ⟨blocks, .underline title⟩ (underline title) = some ⟨blocks, .query title []⟩ :=
  if_pos rfl

theorem next_query (title : String) (pieces : List String) (piece : String) :
    next ⟨blocks, .query title pieces⟩ ("    " ++ piece) =
      some ⟨blocks, .query title (pieces ++ [piece])⟩ := by
  have hchars : ("    " ++ piece).toList = ' ' :: ' ' :: ' ' :: ' ' :: piece.toList :=
    String.toList_append
  have hne : "    " ++ piece ≠ "" := by
    intro hempty
    rw [hempty] at hchars
    exact nomatch hchars
  unfold next
  dsimp only
  rw [if_neg hne, hchars, indented?, String.ofList_toList]
  rfl

theorem finish_query {title query : String} {pieces : List String} (h : Spread query pieces) :
    finish ⟨blocks, .query title pieces⟩ = some (blocks ++ [⟨title, query⟩]) := by
  obtain ⟨first, rest, rfl⟩ := List.exists_cons_of_ne_nil h.ne_nil
  unfold finish
  dsimp only
  rw [h.join_eq]

theorem next_gap {title query : String} {pieces : List String} (h : Spread query pieces) :
    next ⟨blocks, .query title pieces⟩ "" = some ⟨blocks ++ [⟨title, query⟩], .title⟩ := by
  unfold next
  dsimp only
  rw [if_pos rfl, finish_query h]
  rfl

/-- The lines of a query are collected in order. -/
theorem foldlM_next_indented (title : String) (pieces more : List String) :
    (more.map ("    " ++ ·)).foldlM next ⟨blocks, .query title pieces⟩ =
      some ⟨blocks, .query title (pieces ++ more)⟩ := by
  induction more generalizing pieces with
  | nil => rw [List.append_nil]; rfl
  | cons piece more ih =>
    rw [List.map_cons, List.foldlM_cons, next_query, Option.bind_eq_bind, Option.bind_some, ih,
      List.append_assoc]
    rfl

theorem foldlM_next_lines (titled : Titled) :
    titled.lines.foldlM next ⟨blocks, .title⟩ =
      some ⟨blocks, .query titled.title (queryLines titled.query)⟩ := by
  unfold Titled.lines
  rw [List.foldlM_cons, next_title, Option.bind_eq_bind, Option.bind_some, List.foldlM_cons,
    next_underline, Option.bind_eq_bind, Option.bind_some, foldlM_next_indented, List.nil_append]

/-- Whole blocks are read as what they print, after any blocks before them. -/
theorem foldlM_next_printedLines (first : Titled) (rest : List Titled) :
    ((printedLines (first :: rest)).foldlM next ⟨blocks, .title⟩).bind finish =
      some (blocks ++ first :: rest) := by
  have hspread := spread_queryLines first.query
  induction rest generalizing blocks first with
  | nil =>
    have hlines : printedLines [first] = first.lines := List.intercalate_singleton
    rw [hlines, foldlM_next_lines, Option.bind_some, finish_query hspread]
  | cons following rest ih =>
    rw [printedLines_cons_cons, List.foldlM_append, foldlM_next_lines, Option.bind_eq_bind,
      Option.bind_some, List.foldlM_cons, next_gap hspread, Option.bind_eq_bind, Option.bind_some,
      ih following (spread_queryLines following.query), List.append_assoc]
    rfl

end Decoding

theorem decode?_pretty {queries : List Titled} (h : ∀ titled ∈ queries, titled.OneLine) :
    decode? (pretty queries) = some queries := by
  unfold decode?
  cases queries with
  | nil => rfl
  | cons first rest =>
    obtain ⟨more, hmore⟩ := printedLines_eq_cons first rest
    have hne : printedLines (first :: rest) ≠ [""] := by
      rw [hmore]
      exact fun heq => List.cons_ne_nil _ _ (List.cons.inj heq).2
    rw [splitAt_pretty (List.cons_ne_nil _ _) h]
    dsimp only
    rw [if_neg hne]
    exact Decoding.foldlM_next_printedLines first rest

/-- Titles and queries of one line each are read back from their printout, whose lines are the
title, the underline and the indented lines of the query, with an empty line between blocks. So
different lists have different printouts. -/
theorem pretty_readable :
    (∀ queries : List Titled, (∀ titled ∈ queries, titled.OneLine) →
      decode? (pretty queries) = some queries ∧
      (queries ≠ [] →
        splitAt '\n' (pretty queries) =
          [""].intercalate (queries.map fun titled =>
            titled.title :: String.ofList (List.replicate titled.title.utf8ByteSize '-') ::
              (queryLines titled.query).map ("    " ++ ·)))) ∧
    (∀ query : String, Spread query (queryLines query)) ∧
    ∀ queries others : List Titled, (∀ titled ∈ queries, titled.OneLine) →
      (∀ titled ∈ others, titled.OneLine) → pretty queries = pretty others → queries = others := by
  refine ⟨fun queries h => ⟨decode?_pretty h, fun hne => splitAt_pretty hne h⟩,
    spread_queryLines, ?_⟩
  intro queries others hqueries hothers heq
  have hread := decode?_pretty hqueries
  rw [heq, decode?_pretty hothers] at hread
  exact (Option.some.inj hread).symm

/-- A block without any text, a title like the line of a query, a query of bars alone, and one
whose 31 characters take just 60 bytes. -/
theorem pretty_readable_bars :
    let long := "|éééééééééééééé|ééééééééééééééé"
    let queries : List Titled := [⟨"", ""⟩, ⟨"    |", "||"⟩, ⟨"-", long⟩]
    let others : List Titled := [⟨"", ""⟩, ⟨"", "    |"⟩, ⟨"-", long⟩]
    (∀ titled ∈ queries, titled.OneLine) ∧ (∀ titled ∈ others, titled.OneLine) ∧
    decode? (pretty queries) = some queries ∧ Spread long (queryLines long) ∧
    60 ≤ long.utf8ByteSize ∧ (queryLines long).length = 3 ∧ pretty queries ≠ pretty others := by
  intro long queries others
  have hqueries : ∀ titled ∈ queries, titled.OneLine := by decide
  have hothers : ∀ titled ∈ others, titled.OneLine := by decide
  have hlong : 60 ≤ long.utf8ByteSize := by decide
  have hspread : Spread long (queryLines long) := pretty_readable.2.1 long
  have hcount : long.toList.count '|' = 2 := by decide
  have hlength : (queryLines long).length = 3 := by rw [hspread.length_eq hlong, hcount]
  have hne : queries ≠ others := by decide
  exact ⟨hqueries, hothers, (pretty_readable.1 queries hqueries).1, hspread, hlong, hlength,
    mt (pretty_readable.2.2 queries others hqueries hothers) hne⟩

end AuditSearch.Report
