import AuditSearch.Journey.Catalog

/-!
# Settings

What a configuration file can set. Everything has a default, so an empty file sets nothing.
-/

namespace AuditSearch

open Audit Output Journey Report

structure Settings where
  index? : Option String := none
  layout? : Option Layout := none
  /-- The names of the catalog entries to print. Without a list, all are printed. -/
  queries? : Option (List String) := none
  /-- Rules that take the place of those for every API. -/
  fields : Schema := .empty
deriving DecidableEq

namespace Settings

def index (settings : Settings) : String :=
  settings.index?.getD defaultIndex

def layout (settings : Settings) : Layout :=
  settings.layout?.getD .pretty

/-- The built-in rules, with the fields of the settings laid over those for every API. -/
def registry (settings : Settings) : Registry :=
  if settings.fields.isEmpty then Journey.registry
  else Journey.registry.extend .any settings.fields

/-- The entries to print, in the order of the catalog. -/
def selected (settings : Settings) : List Entry :=
  match settings.queries? with
  | none => catalog
  | some names => select names

/-- The first name in the list of queries that the catalog does not have. -/
def unknownQuery? (settings : Settings) : Option String :=
  (settings.queries?.getD []).find? fun name => (Journey.find? name).isNone

end Settings

end AuditSearch
