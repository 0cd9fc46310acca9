import AuditSearch.Settings.Document
import AuditSearch.Shell.Session

/-!
# The program

Reads the environment and the files that a run asks for, and writes what the run leaves behind.
-/

open AuditSearch.Settings AuditSearch.Shell

/-- The description of a failure and its number, which is handed over with either sign. -/
def describe (details : String) (code : UInt32) : String :=
  let number := min code (-code)
  details.capitalize ++ " (os error " ++ toString number ++ ")"

def readFailure : IO.Error → ReadFailure
  | .noFileOrDirectory .. => .missing
  | .inappropriateType _ code details => .refused (describe details code)
  | .permissionDenied _ code details => .refused (describe details code)
  | error => .refused (toString error)

def readFile (path : String) : IO (Except ReadFailure ByteArray) := do
  try return .ok (← IO.FS.readBinFile path)
  catch error => return .error (readFailure error)

/-- The contents of the first file that can be read. -/
def readFirst : List String → IO (Option ByteArray)
  | [] => return none
  | path :: rest => do
    match ← readFile path with
    | .ok bytes => return some bytes
    | .error _ => readFirst rest

/-- The variables that the program looks at, and those that the environment file mentions. A name
with a NUL character names none. -/
def environment (dotenv : List Dotenv.Assignment) : IO Environment := do
  let names := [indexVariable, "CLICOLOR_FORCE", "NO_COLOR", "CLICOLOR"] ++ Dotenv.mentioned dotenv
  names.filterMapM fun name => do
    if name.toList.contains '\x00' then return none
    else return (← IO.getEnv name).map (name, ·)

def main (arguments : List String) : IO UInt32 := do
  let dotenv := (← readFirst dotenvPaths).elim [] Dotenv.assignments
  let stdout ← IO.getStdout
  let outcome ←
    match Session.begin arguments (← environment dotenv) (← stdout.isTty) dotenv with
    | .error outcome => pure outcome
    | .ok session => session.execute parse <$> readFile session.source.path
  stdout.putStr outcome.stdout
  stdout.flush
  IO.eprint outcome.stderr
  return outcome.code.toUInt32
