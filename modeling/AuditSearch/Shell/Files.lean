import AuditSearch.Settings.Load
import AuditSearch.Text.Split

/-!
# Directories at rest

A `Files` holds the files and directories that a program finds from its working directory, while
nobody changes them. `insert` puts one at the end of a path, and `read` looks a path up; both go one
part after the other, the way a system does. What was not put anywhere is not found.
-/

namespace AuditSearch.Shell

open Settings

/-- A place, by the steps that lead there from the working directory. Steps up, which are written
`..`, stand only in front. A place that is counted from the top has the step `/` in front. -/
abbrev Location := List String

namespace Location

def top : Location := ["/"]

/-- A place that is known to be a directory: the top, and the working directory with all that it
stands in. -/
def isAncestor (location : Location) : Bool :=
  location = top || location.all (· = "..")

def up (location : Location) : Location :=
  if location = top then top
  else if location.isAncestor then location ++ [".."]
  else location.dropLast

/-- Where one part of a path leads. -/
def step (location : Location) (part : String) : Location :=
  if part = "" ∨ part = "." then location
  else if part = ".." then location.up
  else location ++ [part]

/-- Where a path starts, and its parts. -/
def route (path : String) : Location × List String :=
  match Text.splitAt '/' path with
  | "" :: rest => (top, rest)
  | parts => ([], parts)

end Location

inductive Node where
  | file (bytes : ByteArray)
  | directory

/-- What stands at places. Of two entries for one place the first one counts. -/
abbrev Files := List (Location × Node)

namespace Files

/-- What stands at a place, if anything does. -/
def node? (files : Files) (location : Location) : Option Node :=
  (files.lookup location).or (if location.isAncestor then some .directory else none)

/-- Puts `node` where `parts` lead from `here`. The directories on the way are made. -/
def insertAlong (files : Files) (node : Node) (here : Location) : List String → Files
  | [] => (here, node) :: files
  | part :: rest => insertAlong ((here, .directory) :: files) node (here.step part) rest

/-- Puts `node` at the end of `path`, in the place of what stands there. -/
def insert (files : Files) (path : String) (node : Node) : Files :=
  let (start, parts) := Location.route path
  files.insertAlong node start parts

/-- What every system has: an empty file among the devices, and a directory for what does not
last. -/
def standard : Files :=
  [("/dev/null", .file .empty), ("/tmp", .directory)].foldr
    (fun (path, node) files => files.insert path node) []

/-- The later entries go in the place of earlier ones. -/
def ofList (entries : List (String × Node)) : Files :=
  entries.foldl (fun files (path, node) => files.insert path node) standard

def notDirectory : ReadFailure := .refused "Not a directory (os error 20)"

def isDirectory : ReadFailure := .refused "Is a directory (os error 21)"

def nameTooLong : ReadFailure := .refused "File name too long (os error 36)"

def hasNul : ReadFailure := .refused "file name contained an unexpected NUL byte"

/-- The longest part of a path, in bytes. -/
def maxPart : Nat := 255

/-- The longest path, in bytes. -/
def maxPath : Nat := 4095

/-- Goes from the place `here` along `parts`. -/
def walk (files : Files) (here : Location) (parts : List String) : Except ReadFailure ByteArray :=
  match files.node? here, parts with
  | none, _ => .error .missing
  | some (.file bytes), [] => .ok bytes
  | some (.file _), _ :: _ => .error notDirectory
  | some .directory, [] => .error isDirectory
  | some .directory, part :: rest =>
    if maxPart < part.utf8ByteSize then .error nameTooLong
    else walk files (here.step part) rest

/-- The bytes of the file at `path`. -/
def read (files : Files) (path : String) : Except ReadFailure ByteArray :=
  if path.toList.contains '\x00' then .error hasNul
  else if path = "" then .error .missing
  else if maxPath < path.utf8ByteSize then .error nameTooLong
  else
    let (start, parts) := Location.route path
    files.walk start parts

end Files

end AuditSearch.Shell
