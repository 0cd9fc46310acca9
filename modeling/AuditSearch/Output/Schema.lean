import Std.Data.ExtTreeMap
import AuditSearch.Output.Rule

/-!
# Schemas

A `Schema` is a finite map from the names of output fields to their rules. It is extensional:
two schemas are equal exactly if they give every name the same rule (`ext_get?`), however they
were built, and their names are listed in ascending order.
-/

namespace AuditSearch.Output

structure Schema where
  rules : Std.ExtTreeMap String Rule compare
deriving DecidableEq

namespace Schema

def empty : Schema := ⟨∅⟩

instance : Inhabited Schema := ⟨empty⟩

instance : EmptyCollection Schema := ⟨empty⟩

/-- The rule of `name`, if the schema has one. -/
def get? (schema : Schema) (name : String) : Option Rule :=
  schema.rules[name]?

def contains (schema : Schema) (name : String) : Bool :=
  schema.rules.contains name

def size (schema : Schema) : Nat :=
  schema.rules.size

def isEmpty (schema : Schema) : Bool :=
  schema.rules.isEmpty

/-- The names that have a rule, in ascending order. -/
def names (schema : Schema) : List String :=
  schema.rules.keys

def toList (schema : Schema) : List (String × Rule) :=
  schema.rules.toList

/-- Gives `name` the rule `rule`, in place of the one it had. -/
def insert (schema : Schema) (name : String) (rule : Rule) : Schema :=
  ⟨schema.rules.insert name rule⟩

/-- `insert`, with the rule that `name` had before. -/
def replace (schema : Schema) (name : String) (rule : Rule) : Option Rule × Schema :=
  (schema.get? name, schema.insert name rule)

/-- Inserts the entries in order, so the last one of a name stays. -/
def insertMany (schema : Schema) (entries : List (String × Rule)) : Schema :=
  entries.foldl (fun schema entry => schema.insert entry.1 entry.2) schema

def ofList (entries : List (String × Rule)) : Schema :=
  empty.insertMany entries

/-- The rules of `upper`, and those of `lower` for the names that `upper` leaves out. A rule is
taken whole from one of the two. -/
def overlay (lower upper : Schema) : Schema :=
  ⟨lower.rules ∪ upper.rules⟩

/-- Schemas that agree on every name are equal. -/
theorem ext_get? {s t : Schema} (h : ∀ name, s.get? name = t.get? name) : s = t := by
  cases s
  cases t
  exact congrArg mk (Std.ExtTreeMap.ext_getElem? h)

@[simp] theorem get?_empty (name : String) : empty.get? name = none := by
  simp [empty, get?]

@[simp] theorem get?_insert (schema : Schema) (name other : String) (rule : Rule) :
    (schema.insert name rule).get? other =
      if name = other then some rule else schema.get? other := by
  simp [insert, get?, Std.ExtTreeMap.getElem?_insert]

@[simp] theorem get?_overlay (lower upper : Schema) (name : String) :
    (lower.overlay upper).get? name = (upper.get? name).or (lower.get? name) := by
  simp [overlay, get?, Std.ExtTreeMap.getElem?_union]

theorem contains_eq_isSome (schema : Schema) (name : String) :
    schema.contains name = (schema.get? name).isSome := by
  simp [contains, get?]

@[simp] theorem mem_names {schema : Schema} {name : String} :
    name ∈ schema.names ↔ (schema.get? name).isSome := by
  simp [names, get?]

theorem pairwise_names (schema : Schema) :
    schema.names.Pairwise (fun a b => compare a b = .lt) :=
  Std.ExtTreeMap.ordered_keys

@[simp] theorem length_names (schema : Schema) : schema.names.length = schema.size :=
  Std.ExtTreeMap.length_keys

@[simp] theorem insertMany_nil (schema : Schema) : schema.insertMany [] = schema := rfl

@[simp] theorem insertMany_cons (schema : Schema) (entry : String × Rule)
    (entries : List (String × Rule)) :
    schema.insertMany (entry :: entries) = (schema.insert entry.1 entry.2).insertMany entries := rfl

end Schema

end AuditSearch.Output
