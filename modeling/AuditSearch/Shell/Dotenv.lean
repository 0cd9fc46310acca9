import AuditSearch.Shell.Environment
import AuditSearch.Text.Alphanumeric
import AuditSearch.Text.Blank

/-!
# Environment files

A file of lines `NAME=value`. A value may be quoted in part, which lets it go on over the end of a
line, and it may refer to variables. `Dotenv.assignments` reads the assignments up to the first
line that is not well formed; what comes after it is not looked at. `Environment.assign` carries
one out.
-/

namespace AuditSearch.Shell

open Text

namespace Dotenv

/-- A part of a value. -/
inductive Piece where
  | char (c : Char)
  | variable (name : String)
deriving DecidableEq, Repr

structure Assignment where
  name : String
  value : List Piece
deriving DecidableEq, Repr

/-- The lines of a file, each with the line feed that ends it. -/
def physicalLines : List UInt8 → List (List UInt8)
  | [] => []
  | byte :: rest =>
    if byte = 10 then [byte] :: physicalLines rest
    else match physicalLines rest with
      | [] => [[byte]]
      | line :: lines => (byte :: line) :: lines

def decode? (line : List UInt8) : Option (List Char) :=
  String.toList <$> String.fromUTF8? ⟨line.toArray⟩

/-- How far the reading of a line has come, as to where the line ends. -/
inductive Scan where
  | plain
  /-- After a blank, where a comment may start. -/
  | blank
  | escape
  | quoted (quote : Char)
  | quotedEscape (quote : Char)
deriving DecidableEq, Repr

def Scan.next (scan : Scan) (c : Char) : Scan :=
  let start : Scan :=
    if c = '\\' then .escape else if c = '"' ∨ c = '\'' then .quoted c else .plain
  match scan with
  | .plain => if isBlank c ∧ c ≠ '\n' ∧ c ≠ '\r' then .blank else start
  | .blank => start
  | .escape => .plain
  | .quoted quote => if c = '\\' then .quotedEscape quote else if c = quote then .plain else scan
  | .quotedEscape quote => .quoted quote

/-- The part of a line before a comment, and where the line leaves the scan. A comment ends it. -/
def scanLine (scan : Scan) : List Char → List Char × Option Scan
  | [] => ([], some scan)
  | c :: rest =>
    if scan = .blank ∧ c = '#' then ([], none)
    else
      let (kept, last) := scanLine (scan.next c) rest
      (c :: kept, last)

/-- Drops the end of a line. -/
def chomp (line : List Char) : List Char :=
  match line.reverse with
  | '\n' :: '\r' :: rest => rest.reverse
  | '\n' :: rest => rest.reverse
  | _ => line

/-- The lines as they count: a line goes on until every quote is closed. A `none` stands for bytes
that are not text, or for an end of the file inside a line. -/
def logicalLines (before : List Char) (scan : Scan) :
    List (Option (List Char)) → List (Option (List Char))
  | [] => if scan = .plain then [] else [none]
  | none :: _ => [none]
  | some line :: rest =>
    let whole := before ++ line
    if (whole.dropWhile isBlank).head? = some '#' then some [] :: logicalLines [] .plain rest
    else match scanLine scan line with
      | (kept, none) => some (before ++ kept) :: logicalLines [] .plain rest
      | (_, some .plain) => some (chomp whole) :: logicalLines [] .plain rest
      | (_, some scan) => logicalLines whole scan rest

/-- Where the reading of a value stands. -/
inductive Mode where
  | bare
  /-- In double quotes. -/
  | weak
  /-- In single quotes, where everything stands for itself. -/
  | strong
  /-- After a backslash, inside or outside of double quotes. -/
  | escape (outer : Mode)
  /-- In the name of a variable, whose last character comes first. -/
  | name (outer : Mode) (reversed : List Char)
  /-- In the name of a variable between braces, whose last character comes first. -/
  | braced (outer : Mode) (reversed : List Char)
  /-- After a blank, where only a comment may follow. -/
  | ending
  | comment
deriving DecidableEq, Repr

/-- A value that has been read in part, with its last piece first. -/
structure Progress where
  mode : Mode := .bare
  reversed : List Piece := []

namespace Progress

def push (value : Progress) (mode : Mode) (piece : Piece) : Progress :=
  ⟨mode, piece :: value.reversed⟩

/-- Ends the name of a variable. -/
def pushVariable (value : Progress) (mode : Mode) (reversed : List Char) : Progress :=
  value.push mode (.variable (String.ofList reversed.reverse))

/-- The next character, or `none` where it cannot stand. -/
def next (value : Progress) (c : Char) : Option Progress :=
  match value.mode with
  | .comment => some value
  | .ending =>
    if c = ' ' ∨ c = '\t' then some value
    else if c = '#' then some { value with mode := .comment }
    else none
  | .escape outer =>
    if c = 'n' then some (value.push outer (.char '\n'))
    else if c ∈ ['\\', '\'', '"', '$', ' '] then some (value.push outer (.char c))
    else none
  | .strong =>
    some (if c = '\'' then { value with mode := .bare } else value.push .strong (.char c))
  | .name outer name =>
    if isAlphanumeric c then some { value with mode := .name outer (c :: name) }
    else if c = '\x7b' ∧ name = [] then some { value with mode := .braced outer [] }
    else
      let ended := value.pushVariable outer name
      some (if c = '$' then { ended with mode := .name outer [] } else ended.push outer (.char c))
  | .braced outer name =>
    some (if c = '\x7d' then value.pushVariable outer name
      else { value with mode := .braced outer (c :: name) })
  | .weak =>
    some (if c = '$' then { value with mode := .name .weak [] }
      else if c = '"' then { value with mode := .bare }
      else if c = '\\' then { value with mode := .escape .weak }
      else value.push .weak (.char c))
  | .bare =>
    some (if c = '$' then { value with mode := .name .bare [] }
      else if c = '\'' then { value with mode := .strong }
      else if c = '"' then { value with mode := .weak }
      else if c = '\\' then { value with mode := .escape .bare }
      else if c = ' ' ∨ c = '\t' then { value with mode := .ending }
      else value.push .bare (.char c))

/-- The whole value, or `none` while a quote or a brace is open. -/
def finish (value : Progress) : Option (List Piece) :=
  match value.mode with
  | .bare | .ending | .comment | .escape .bare => some value.reversed.reverse
  | .name .bare name => some (value.pushVariable .bare name).reversed.reverse
  | _ => none

end Progress

/-- The pieces of a value. -/
def pieces? (text : List Char) : Option (List Piece) := do
  (← text.foldlM Progress.next {}).finish

def isNameStart (c : Char) : Bool := c.isAlpha || c = '_'

def isNameChar (c : Char) : Bool := c.isAlphanum || c = '_' || c = '.'

/-- A name with the blanks after it, and what follows. -/
def name? (text : List Char) : Option (String × List Char) :=
  if (text.head?.map isNameStart).getD false then
    some (String.ofList (text.takeWhile isNameChar),
      (text.dropWhile isNameChar).dropWhile isBlank)
  else none

def equals? : List Char → Option (List Char)
  | '=' :: rest => some (rest.dropWhile isBlank)
  | _ => none

def isVoid (text : List Char) : Bool :=
  text.isEmpty || text.head? = some '#'

/-- The name that a line assigns to, and the text after the equals sign. The word `export` may stand
in front, and is a name itself where an equals sign follows. -/
def target? (text : List Char) : Option (String × List Char) := do
  let (first, rest) ← name? text
  match equals? rest with
  | some value => some (first, value)
  | none =>
    if first = "export" then
      let (name, rest) ← name? rest
      let value ← equals? rest
      some (name, value)
    else none

/-- What a line says: nothing, or an assignment. The outer `none` stands for a line that is not
well formed. -/
def line? (text : List Char) : Option (Option Assignment) :=
  let text := (trimCharsEnd text).dropWhile isBlank
  if isVoid text then some none
  else do
    let (name, value) ← target? text
    let pieces ← if isVoid value then some [] else pieces? value
    return some ⟨name, pieces⟩

/-- The assignments of the lines up to the first one that is not well formed. -/
def ofLines : List (Option (List Char)) → List Assignment
  | [] => []
  | line :: rest =>
    match line.bind line? with
    | none => []
    | some none => ofLines rest
    | some (some assignment) => assignment :: ofLines rest

/-- The assignments of a file. A byte order mark in front is passed over. -/
def assignments (bytes : ByteArray) : List Assignment :=
  let bytes := match bytes.toList with
    | 0xEF :: 0xBB :: 0xBF :: rest => rest
    | bytes => bytes
  ofLines (logicalLines [] .plain ((physicalLines bytes).map decode?))

/-- The variables that the assignments read or set. -/
def mentioned (assignments : List Assignment) : List String :=
  assignments.flatMap fun assignment => assignment.name :: assignment.value.filterMap fun
    | .char _ => none
    | .variable name => some name

end Dotenv

namespace Environment

open Dotenv

/-- A variable that is not set stands for an empty text. -/
def expand (environment : Environment) (value : List Piece) : String :=
  String.ofList (value.flatMap fun
    | .char c => [c]
    | .variable name => ((environment.get? name).getD "").toList)

/-- A variable that is set already keeps its value. A value with a NUL character cannot be set,
and the attempt brings the program down: the answer is `none`. -/
def assign (environment : Environment) (assignment : Assignment) : Option Environment :=
  if (environment.get? assignment.name).isSome then some environment
  else
    let value := environment.expand assignment.value
    if value.toList.contains '\x00' then none else some ((assignment.name, value) :: environment)

def assignAll (environment : Environment) (assignments : List Assignment) : Option Environment :=
  assignments.foldlM assign environment

end Environment

end AuditSearch.Shell
