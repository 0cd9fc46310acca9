import AuditSearch.Report.Batch
import AuditSearch.Settings.Load
import AuditSearch.Shell.Arguments
import AuditSearch.Shell.Dotenv
import AuditSearch.Shell.Style

/-!
# Runs of the program

A run is a function of its arguments, of the environment, of the files that it reads (an environment
file, and the file of settings), and of the parser that reads the settings. `begin` finds out what is
asked for, and `execute` does it with the contents of the file of settings.
-/

namespace AuditSearch.Shell

open Journey Query Report Settings

/-- What a run leaves behind. -/
structure Outcome where
  code : Nat
  stdout : String := ""
  stderr : String := ""
deriving DecidableEq, Repr

/-- Why a run fails. -/
inductive Failure where
  | settings (error : LoadError)
  | query (error : Output.QueryError)
  /-- A name among the arguments that the catalog does not have. -/
  | unknownQuery (name : String)
deriving DecidableEq, Repr

def Failure.message : Failure → String
  | settings error => "Configuration error: " ++ error.message
  | query error => "Query generation failed: " ++ error.message
  | unknownQuery name =>
    "Unknown query: " ++ name ++ " (run 'ujquery list' for available names)"

/-- The line that tells about a failure. -/
def errorLine (colour : Bool) (message : String) : String :=
  Style.failure.paint colour "Error:" ++ " " ++ message

def padRight (width : Nat) (text : String) : String :=
  text ++ String.ofList (List.replicate (width - text.length) ' ')

/-- A line for each entry. The names are padded to the longest one, measured in bytes. -/
def listing (colour : Bool) (entries : List Entry) : List String :=
  let width := (entries.map (·.name.utf8ByteSize)).foldl max 0
  entries.map fun entry =>
    "  " ++ Style.label.paint colour (padRight width entry.name) ++ "  " ++ entry.title

/-- The output of the command `list`. -/
def listOutput (colour : Bool) : String :=
  let count := toString catalog.length ++ " query(s)"
  String.join ((
    [Style.heading.paint colour "User journey queries", ""] ++ listing colour catalog ++
      ["", Style.muted.paint colour count]).map (· ++ "\n"))

/-- The entries to print: those that are named, or those of the settings if none is. -/
def choose (settings : Settings) (names : List String) : Except Failure (List Entry) :=
  match names with
  | [] => .ok settings.selected
  | _ :: _ => match names.find? fun name => (Journey.find? name).isNone with
    | some name => .error (.unknownQuery name)
    | none => .ok (select names)

/-- The output of the command `print`. What the arguments say goes before the settings. -/
def printOutput (invocation : Invocation) (settings : Settings) : Except Failure String := do
  let entries ← choose settings invocation.queries
  let index := invocation.index?.getD settings.index
  let layout := if invocation.machine then .machine else settings.layout
  (batch entries index settings.registry layout).outcome.mapError .query

/-- The output of a command. The settings are loaded for every command, also for one that does not
look at them. -/
def output (invocation : Invocation) (colour : Bool)
    (loaded : Except LoadError Settings) : Except Failure String := do
  let settings ← loaded.mapError .settings
  match invocation.command with
  | .list => return listOutput colour
  | .print => printOutput invocation settings

/-- The version of the program, with its name. -/
def version : String := "ujquery 0.1.0"

def help : String :=
  String.join ([
    "Prints log-search queries extracting user journey events from K8s audit records", "",
    "Usage: ujquery [OPTIONS] [COMMAND]", "",
    "Commands:",
    "  list  List query names and titles",
    "  help  Print this message", "",
    "Options:",
    "  -c, --config <PATH>   Path to config file (default: ujquery.toml, if present)",
    "      --index <INDEX>   Index to search for audit records",
    "  -0, --machine         Print queries separated by NUL characters, without titles",
    "  -q, --query <NAME>    Print only the named query (repeatable)",
    "  -h, --help            Print help",
    "  -V, --version         Print version"].map (· ++ "\n"))

/-- A run that knows what it is asked for. -/
structure Session where
  invocation : Invocation
  colour : Bool
deriving DecidableEq, Repr

/-- The variable that names the index, unless an argument does. -/
def indexVariable : String := "UJQUERY_INDEX"

/-- Where the environment file may stand: in the working directory, or else in the nearest one
above that has it. -/
def dotenvPaths : List String :=
  (List.range 64).map fun n => String.join (List.replicate n "../") ++ ".env"

/-- Starts a run: the environment file is carried out, and the arguments are read. -/
def Session.begin (arguments : List String) (environment : Environment) (terminal : Bool)
    (dotenv : List Dotenv.Assignment) : Except Outcome Session := do
  let some environment := environment.assignAll dotenv | throw { code := 101 }
  match Invocation.ofArguments arguments with
  | .error .version => throw { code := 0, stdout := version ++ "\n" }
  | .error .help => throw { code := 0, stdout := help }
  | .error (.usage e) => throw { code := 2, stderr := "error: " ++ e.message ++ "\n" }
  | .ok invocation =>
    return {
      invocation := { invocation with
        index? := invocation.index?.or (environment.get? indexVariable) }
      colour := environment.wantsColour terminal }

def Session.source (session : Session) : Source :=
  match session.invocation.config? with
  | none => .default
  | some path => .named path

/-- Ends a run, with what reading the file of settings gave. -/
def Session.execute (session : Session) (parse : Parser)
    (contents : Except ReadFailure ByteArray) : Outcome :=
  match output session.invocation session.colour (load parse session.source contents) with
  | .ok text => { code := 0, stdout := text }
  | .error failure =>
    { code := 1, stderr := errorLine session.colour failure.message ++ "\n" }

/-- A whole run, with the files as a function. -/
def run (parse : Parser) (arguments : List String) (environment : Environment) (terminal : Bool)
    (read : String → Except ReadFailure ByteArray) : Outcome :=
  let dotenv := dotenvPaths.findSome? fun path => (read path).toOption
  match Session.begin arguments environment terminal (dotenv.elim [] Dotenv.assignments) with
  | .error outcome => outcome
  | .ok session => session.execute parse (read session.source.path)

end AuditSearch.Shell
