/-!
# Command-line arguments

Arguments are read from left to right, and the first one that cannot stand where it does, or that
asks for help or for the version, ends the reading. An option that takes a value takes the next
argument, whatever it is, unless that looks like an option. The index and the file of settings may
be named before or after the command `list`, and then the later place counts.
-/

namespace AuditSearch.Shell

/-- The options in front of a command, or after it. -/
structure Options where
  config? : Option String := none
  index? : Option String := none
  machine : Bool := false
  queries : List String := []
deriving DecidableEq, Repr

inductive Command where
  | print
  | list
deriving DecidableEq, Repr

/-- What the arguments ask for. -/
structure Invocation where
  command : Command := .print
  config? : Option String := none
  index? : Option String := none
  /-- Asks for output for programs. -/
  machine : Bool := false
  /-- The entries of the catalog to print; without any, the settings decide. -/
  queries : List String := []
deriving DecidableEq, Repr

/-- An option that takes a value. -/
inductive Valued where
  | config
  | index
  | query
deriving DecidableEq, Repr

def Valued.name : Valued → String
  | config => "--config"
  | index => "--index"
  | query => "--query"

inductive UsageError where
  | unexpected (argument : String)
  | missingValue (option : Valued)
  | emptyValue (option : Valued)
  | repeated (option : String)
deriving DecidableEq, Repr

def UsageError.message : UsageError → String
  | unexpected argument => "unexpected argument '" ++ argument ++ "'"
  | missingValue option => "a value is required for '" ++ option.name ++ "'"
  | emptyValue option => "the value of '" ++ option.name ++ "' is empty"
  | repeated option => "'" ++ option ++ "' cannot be used more than once"

/-- Why no command runs. -/
inductive Stop where
  | usage (error : UsageError)
  | version
  | help
deriving DecidableEq, Repr

namespace Options

/-- Gives an option its value. Only `--query` may be given more than once. -/
def set (options : Options) (option : Valued) (value : String) : Except UsageError Options :=
  match option with
  | .query => .ok { options with queries := options.queries ++ [value] }
  | .index =>
    if options.index?.isSome then .error (.repeated option.name)
    else .ok { options with index? := some value }
  | .config =>
    if value = "" then .error (.emptyValue option)
    else if options.config?.isSome then .error (.repeated option.name)
    else .ok { options with config? := some value }

def setMachine (options : Options) : Except UsageError Options :=
  if options.machine then .error (.repeated "--machine") else .ok { options with machine := true }

end Options

/-- What may follow. -/
inductive Place where
  /-- In front of a command. -/
  | front
  /-- After the command `list`. -/
  | list
  /-- After the command `help`, with the command that it is asked about or without one. -/
  | help (about : Bool)
  /-- After two dashes, where nothing may follow. -/
  | closed
deriving DecidableEq, Repr

/-- Arguments that have been read in part. -/
structure Reading where
  place : Place := .front
  front : Options := {}
  /-- The options after the command `list`. -/
  list? : Option Options := none
  /-- An option that waits for its value. -/
  pending? : Option Valued := none
deriving DecidableEq, Repr

namespace Reading

def usage {α : Type} (error : UsageError) : Except Stop α := .error (.usage error)

/-- Changes the options at the present place. -/
def change (reading : Reading) (set : Options → Except UsageError Options) :
    Except Stop Reading :=
  match reading.list? with
  | some options => match set options with
    | .ok options => .ok { reading with list? := some options, pending? := none }
    | .error e => usage e
  | none => match set reading.front with
    | .ok front => .ok { reading with front, pending? := none }
    | .error e => usage e

/-- An option with its value, or waiting for it. -/
def valued (reading : Reading) (option : Valued) : Option String → Except Stop Reading
  | some value => reading.change (·.set option value)
  | none => .ok { reading with pending? := some option }

/-- A word behind two dashes, with the text after an equals sign. -/
def long (reading : Reading) (argument word : String) (value? : Option String) :
    Except Stop Reading :=
  match word, value?, reading.place with
  | "config", _, _ => reading.valued .config value?
  | "index", _, _ => reading.valued .index value?
  | "help", none, _ => .error .help
  | "query", _, .front => reading.valued .query value?
  | "machine", none, .front => reading.change Options.setMachine
  | "version", none, .front => .error .version
  | _, _, _ => usage (.unexpected argument)

/-- The value that follows a letter in the same argument. An equals sign before it is dropped. -/
def attached : List Char → Option String
  | [] => none
  | '=' :: rest => some (String.ofList rest)
  | rest => some (String.ofList rest)

/-- Letters behind one dash. A letter that takes a value takes the rest. -/
def short (argument : String) (reading : Reading) : List Char → Except Stop Reading
  | [] => .ok reading
  | letter :: rest =>
    match letter, reading.place with
    | 'c', _ => reading.valued .config (attached rest)
    | 'h', _ => .error .help
    | 'q', .front => reading.valued .query (attached rest)
    | 'V', .front => .error .version
    | '0', .front => do short argument (← reading.change Options.setMachine) rest
    | _, _ => usage (.unexpected argument)

/-- The word and the value of an argument that starts with two dashes. -/
def splitLong (text : List Char) : String × Option String :=
  let word := String.ofList (text.takeWhile (· ≠ '='))
  match text.dropWhile (· ≠ '=') with
  | [] => (word, none)
  | _ :: value => (word, some (String.ofList value))

/-- An argument that no option waits for. -/
def argument (reading : Reading) (text : String) : Except Stop Reading :=
  match reading.place, text.toList with
  | .closed, _ => usage (.unexpected text)
  | .help about, _ =>
    if about = false ∧ text ∈ ["list", "help"] then .ok { reading with place := .help true }
    else usage (.unexpected text)
  | _, ['-', '-'] => .ok { reading with place := .closed }
  | _, '-' :: '-' :: chars =>
    let (word, value?) := splitLong chars
    reading.long text word value?
  | _, '-' :: c :: chars => short text reading (c :: chars)
  | .front, _ =>
    if text = "list" then .ok { reading with place := .list, list? := some {} }
    else if text = "help" then .ok { reading with place := .help false }
    else usage (.unexpected text)
  | .list, _ => usage (.unexpected text)

/-- A dash alone is no option. -/
def looksLikeOption : List Char → Bool
  | '-' :: _ :: _ => true
  | _ => false

def next (reading : Reading) (text : String) : Except Stop Reading :=
  match reading.pending? with
  | none => reading.argument text
  | some option =>
    if looksLikeOption text.toList then usage (.missingValue option)
    else reading.valued option (some text)

def finish (reading : Reading) : Except Stop Invocation :=
  match reading.pending?, reading.place, reading.list? with
  | some option, _, _ => usage (.missingValue option)
  | none, .help _, _ => .error .help
  | none, _, none => .ok
    { config? := reading.front.config?, index? := reading.front.index?
      machine := reading.front.machine, queries := reading.front.queries }
  | none, _, some options => .ok
    { command := .list
      config? := options.config?.or reading.front.config?
      index? := options.index?.or reading.front.index?
      machine := reading.front.machine, queries := reading.front.queries }

end Reading

/-- What the arguments of a program ask for. -/
def Invocation.ofArguments (arguments : List String) : Except Stop Invocation := do
  (← arguments.foldlM Reading.next {}).finish

end AuditSearch.Shell
