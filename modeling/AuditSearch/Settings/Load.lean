import AuditSearch.Settings.Basic

/-!
# Loading settings from a file

The settings come from a file that was named, which has to exist, or from the default file, which
may be missing. How a text is read as settings is left open: it is up to a `Parser`.
-/

namespace AuditSearch.Settings

/-- Reads settings from a text, or says why it cannot. -/
abbrev Parser := String → Except String Settings

/-- Why the contents of a file cannot be had. -/
inductive ReadFailure where
  | missing
  | refused (reason : String)
deriving DecidableEq, Repr

inductive LoadError where
  | notFound (path : String)
  | unreadable (path reason : String)
  /-- The parser refuses the text of the file. -/
  | malformed (path message : String)
  /-- The list of queries has a name that the catalog does not have. -/
  | unknownQuery (name : String)
deriving DecidableEq, Repr

def LoadError.message : LoadError → String
  | .notFound path => "config not found: " ++ path
  | .unreadable path reason => "failed to read " ++ path ++ ": " ++ reason
  | .malformed path message => "failed to parse " ++ path ++ ": " ++ message
  | .unknownQuery name => "unknown query '" ++ name ++ "' in queries"

/-- Which file holds the settings. -/
inductive Source where
  | default
  | named (path : String)
deriving DecidableEq, Repr

def Source.path : Source → String
  | default => "ujquery.toml"
  | named path => path

section
variable (parse : Parser)

/-- The settings in the bytes of the file at `path`. -/
def ofBytes (path : String) (bytes : ByteArray) : Except LoadError Settings := do
  let some text := String.fromUTF8? bytes
    | throw (.unreadable path "stream did not contain valid UTF-8")
  let settings ← (parse text).mapError (.malformed path)
  match settings.unknownQuery? with
  | some name => throw (.unknownQuery name)
  | none => return settings

/-- The settings of `source`, from what reading its file gave. -/
def load (source : Source) (contents : Except ReadFailure ByteArray) :
    Except LoadError Settings :=
  match contents, source with
  | .ok bytes, _ => ofBytes parse source.path bytes
  | .error .missing, .default => .ok {}
  | .error .missing, .named path => .error (.notFound path)
  | .error (.refused reason), _ => .error (.unreadable source.path reason)

end

end AuditSearch.Settings
