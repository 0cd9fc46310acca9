import AuditSearch.Expression

/-!
# Where the value of an output field comes from

A `Rule` says how one output field gets its value and where it is placed. Rules do not carry the
name of their field: a `Schema` gives the name.
-/

namespace AuditSearch.Output

open Expression

/-- The rule without any setting copies the field of the same name from the record. -/
structure Rule where
  /-- The fields of the record to read; each stands in when all before it are null. -/
  sources : List String := []
  /-- An expression for the value. It takes precedence over reading `sources`. -/
  expression : Option String := none
  /-- The object in which the field is placed; without one it stands at the top level. -/
  container : Option String := none
deriving DecidableEq, Repr, Inhabited

namespace Rule

/-- Copies the field of the same name. -/
def copy : Rule := {}

def withSources (rule : Rule) (sources : List String) : Rule :=
  { rule with sources }

def withExpression (rule : Rule) (expression : String) : Rule :=
  { rule with expression := some expression }

/-- Places the field in the object `container`. -/
def inside (rule : Rule) (container : String) : Rule :=
  { rule with container := some container }

/-- Reads the first non-null field of `sources`. -/
def ofSources (sources : List String) : Rule :=
  copy.withSources sources

/-- Computes the value. -/
def ofExpression (expression : String) : Rule :=
  copy.withExpression expression

/-- The expression that the rule gives; a copied field has none of its own. -/
def value? (rule : Rule) : Option String :=
  rule.expression.or (firstNonNull? rule.sources)

/-- The expression of a member of an object, which needs one even if the field is copied. -/
def memberValue (rule : Rule) (name : String) : String :=
  rule.value?.getD (fieldRef name)

/-- The fields of the record of which only the first value is kept when the rule gives the field
`name`. They are the sources even if an expression is given; an expression alone names none. -/
def inputs (rule : Rule) (name : String) : List String :=
  match rule.sources, rule.expression with
  | [], none => [name]
  | [], some _ => []
  | source :: sources, _ => source :: sources

end Rule

end AuditSearch.Output
