import AuditSearch.Settings.Basic
import AuditSearch.Toml.Document

/-!
# Settings written in TOML

A document of settings has four keys, all optional: `index`, `format`, `queries` and `fields`.
Any other key is an error, and so is a value of another shape than the setting has. Only the rules
of fields are more lenient: keys that say nothing about a rule are passed over, as long as their
values can be represented.
-/

namespace AuditSearch.Settings

open Output Report Toml

def textOf? : Value → Option String
  | .string text => some text
  | _ => none

def textsOf? : Value → Option (List String)
  | .array elements => elements.mapM textOf?
  | _ => none

/-- The layout of a name, which is written as a string or as the only key of a table. Nothing is
said about a layout, so the value of that key is empty. -/
def layoutOf? : Value → Option Layout
  | .string name => ofName? name
  | .table _ [(name, .array [])] => ofName? name
  | .table _ [(name, .table _ [])] => ofName? name
  | _ => none
where
  ofName? (name : String) : Option Layout :=
    [Layout.pretty, .machine].find? (·.name = name)

/-- The largest double is `2 ^ 1024 - 2 ^ 971`. A number is beyond all doubles if it is nearer to
`2 ^ 1024`, or as near. -/
def roundsToInfinity (digits : Nat) (exponent : Int) : Bool :=
  let limit := Nat.pow 2 1024 - Nat.pow 2 970
  let places : Int := (toString digits).length + exponent
  if digits = 0 ∨ places < 309 then false
  else if 309 < places then true
  else limit * Nat.pow 10 (-exponent).toNat ≤ digits * Nat.pow 10 exponent.toNat

mutual

/-- A value is represented if its integers have 128 bits, with or without a sign, its decimals are
finite as doubles, and no number in it is garbled. -/
def isRepresentable : Value → Bool
  | .integer n => -2 ^ 127 ≤ n && n < 2 ^ 128
  | .decimal _ digits exponent => !roundsToInfinity digits exponent
  | .garbled => false
  | .array elements => areRepresentable elements
  | .tables elements => areRepresentableTables elements
  | .table _ entries => areRepresentableEntries entries
  | _ => true

def areRepresentable : List Value → Bool
  | [] => true
  | value :: rest => isRepresentable value && areRepresentable rest

def areRepresentableEntries : List (String × Value) → Bool
  | [] => true
  | (_, value) :: rest => isRepresentable value && areRepresentableEntries rest

def areRepresentableTables : List (List (String × Value)) → Bool
  | [] => true
  | entries :: rest => areRepresentableEntries entries && areRepresentableTables rest

end

/-- One key of the table that describes a rule. -/
def setRule? (rule : Rule) : String × Value → Option Rule
  | ("src_fields", value) => rule.withSources <$> textsOf? value
  | ("src_expr", value) => rule.withExpression <$> textOf? value
  | ("sub_obj", value) => rule.inside <$> textOf? value
  | (_, value) => if isRepresentable value then some rule else none

/-- A rule is described by a table, or by an array of its settings in order, of which the last
ones may be left out. A time describes the rule without settings. -/
def ruleOf? : Value → Option Rule
  | .table _ entries => entries.foldlM setRule? {}
  | .array elements =>
    (["src_fields", "src_expr", "sub_obj"].zip elements).foldlM setRule? {}
  | .moment => some {}
  | _ => none

def fieldsOf? : Value → Option Schema
  | .table _ entries =>
    Schema.ofList <$> entries.mapM fun (name, value) => (name, ·) <$> ruleOf? value
  | _ => none

/-- One key of the document. -/
def set? (settings : Settings) : String × Value → Option Settings
  | ("index", value) => do return { settings with index? := ← textOf? value }
  | ("format", value) => do return { settings with layout? := ← layoutOf? value }
  | ("queries", value) => do return { settings with queries? := ← textsOf? value }
  | ("fields", value) => do return { settings with fields := ← fieldsOf? value }
  | _ => none

def ofEntries? (entries : Entries) : Option Settings :=
  entries.foldlM set? {}

/-- The settings that a document holds. -/
def read? (text : String) : Option Settings := do
  ofEntries? (← Document.read? text)

/-- The settings that a document holds, or the heading under which it is refused. Where in the
document the error is found is not said. -/
def parse (text : String) : Except String Settings :=
  match read? text with
  | some settings => .ok settings
  | none => .error "TOML parse error"

end AuditSearch.Settings
