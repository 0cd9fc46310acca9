/-!
# Values of a TOML document

A table remembers how it came to be, because that decides what may still be added to it. The
functions here add one statement of a document to the tables built so far, and give `none` where
the statement contradicts an earlier one.
-/

namespace AuditSearch.Toml

/-- How a table was written. -/
inductive Origin where
  /-- Between braces. Nothing can be added to it. -/
  | inline
  /-- Under a header of its own. -/
  | header
  /-- Only as a step in the headers of other tables. -/
  | implied
  /-- As a step in the dotted keys of its parent. -/
  | dotted
deriving DecidableEq, Repr

inductive Value where
  | string (text : String)
  | boolean (value : Bool)
  | integer (value : Int)
  /-- The number `± digits · 10 ^ exponent`. -/
  | decimal (negative : Bool) (digits : Nat) (exponent : Int)
  | infinity (negative : Bool)
  | nan
  /-- An integer whose digits are missing, or are not those of its base. It has no value, which
  matters only where a value is asked for. -/
  | garbled
  /-- A date, a time, or both. What it says is not kept. -/
  | moment
  | array (elements : List Value)
  /-- An array whose elements are tables with headers of their own. -/
  | tables (elements : List (List (String × Value)))
  | table (origin : Origin) (entries : List (String × Value))
deriving Repr, Inhabited

/-- The entries of a table. The keys are distinct. -/
abbrev Entries := List (String × Value)

/-- A key of one or more parts. -/
structure Key where
  first : String
  rest : List String
deriving DecidableEq, Repr

namespace Entries

/-- Puts `value` in the place of the value of `key`. -/
def replace (entries : Entries) (key : String) (value : Value) : Entries :=
  entries.map fun entry => if entry.1 = key then (key, value) else entry

/-- Changes the last table of a nonempty list. -/
def changeLast (change : Entries → Option Entries) (elements : List Entries) :
    Option (List Entries) := do
  let last ← elements.getLast?
  return elements.dropLast ++ [← change last]

/-- Gives a key its value. The steps of a dotted key lead through tables that dotted keys have
made, and the key itself is new. -/
def assign (value : Value) (key : String) (rest : List String) (entries : Entries) :
    Option Entries :=
  match rest with
  | [] =>
    match entries.lookup key with
    | none => some (entries ++ [(key, value)])
    | some _ => none
  | next :: rest =>
    match entries.lookup key with
    | none => do return entries ++ [(key, .table .dotted (← assign value next rest []))]
    | some (.table .dotted inner) => do
      return entries.replace key (.table .dotted (← assign value next rest inner))
    | some (.table .implied inner) => do
      if rest = [] then none
      else return entries.replace key (.table .implied (← assign value next rest inner))
    | some (.tables elements) => do
      if rest = [] then none
      else return entries.replace key (.tables (← changeLast (assign value next rest) elements))
    | some _ => none

/-- Follows the steps of a header, making tables where there are none, and does `final` with the
last part. A step into an array of tables leads into its last table. -/
def follow (final : String → Entries → Option Entries) (key : String) (rest : List String)
    (entries : Entries) : Option Entries :=
  match rest with
  | [] => final key entries
  | next :: rest =>
    match entries.lookup key with
    | none => do return entries ++ [(key, .table .implied (← follow final next rest []))]
    | some (.table .inline _) => none
    | some (.table origin inner) => do
      return entries.replace key (.table origin (← follow final next rest inner))
    | some (.tables elements) => do
      return entries.replace key (.tables (← changeLast (follow final next rest) elements))
    | some _ => none

/-- Opens the table `key`. It is new, or so far only implied. -/
def openTable (key : String) (entries : Entries) : Option Entries :=
  match entries.lookup key with
  | none => some (entries ++ [(key, .table .header [])])
  | some (.table .implied inner) => some (entries.replace key (.table .header inner))
  | some _ => none

/-- Opens a further table of the array `key`. -/
def openElement (key : String) (entries : Entries) : Option Entries :=
  match entries.lookup key with
  | none => some (entries ++ [(key, .tables [[]])])
  | some (.tables elements) => some (entries.replace key (.tables (elements ++ [[]])))
  | some _ => none

/-- Changes the table that was last opened as `key`. -/
def changeOpened (change : Entries → Option Entries) (key : String) (entries : Entries) :
    Option Entries :=
  match entries.lookup key with
  | some (.table origin inner) => do return entries.replace key (.table origin (← change inner))
  | some (.tables elements) => do
    return entries.replace key (.tables (← changeLast change elements))
  | _ => none

end Entries

/-- A statement of a document. -/
inductive Statement where
  | assign (key : Key) (value : Value)
  | openTable (key : Key)
  | openElement (key : Key)

/-- A document that has been read in part: its tables, and the header under which it stands. -/
structure Document where
  root : Entries := []
  opened : Option Key := none

namespace Document

def add (document : Document) : Statement → Option Document
  | .assign key value => do
    let change := Entries.assign value key.first key.rest
    let root ← match document.opened with
      | none => change document.root
      | some header =>
        Entries.follow (Entries.changeOpened change) header.first header.rest document.root
    return { document with root }
  | .openTable key => do
    return ⟨← Entries.follow Entries.openTable key.first key.rest document.root, some key⟩
  | .openElement key => do
    return ⟨← Entries.follow Entries.openElement key.first key.rest document.root, some key⟩

/-- The tables that the statements build. -/
def ofStatements? (statements : List Statement) : Option Entries :=
  Document.root <$> statements.foldlM add {}

end Document

/-- The entries of an inline table. -/
def Entries.ofInline? (assignments : List (Key × Value)) : Option Entries :=
  assignments.foldlM (fun entries (key, value) => entries.assign value key.first key.rest) []

end AuditSearch.Toml
