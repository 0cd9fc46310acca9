/-!
# Fragments of the search language

The expressions and lists from which search stages are written. Names and values stand in them
verbatim: the search language has no way to write a quote inside a quoted name, and none is
invented here.
-/

namespace AuditSearch.Expression

/-- A reference to a field of the record. -/
def fieldRef (name : String) : String :=
  "'" ++ name ++ "'"

/-- A literal text. -/
def literal (value : String) : String :=
  "\"" ++ value ++ "\""

/-- Words separated by bare commas. -/
def commaList (words : List String) : String :=
  ",".intercalate words

/-- The literals of an `IN (...)` clause. -/
def literalList (values : List String) : String :=
  ", ".intercalate (values.map literal)

/-- The value of the multi-value field `field` at the position `position`. -/
def mvindex (field position : String) : String :=
  "mvindex(" ++ fieldRef field ++ ", " ++ position ++ ")"

/-- The position of the first value of the multi-value field `field` that matches `value`. -/
def mvfind (field value : String) : String :=
  "mvfind(" ++ fieldRef field ++ ", " ++ literal value ++ ")"

def assign (name value : String) : String :=
  name ++ "=" ++ value

/-- The command that keeps only the first value of every field of `names`. -/
def keepFirstValues (names : List String) : String :=
  "eval " ++ commaList (names.map fun name => assign name (mvindex name "0"))

/-- The value of `name` if it has one, and `otherwise` if it is null. -/
def orElse (name otherwise : String) : String :=
  "if(isnull(" ++ fieldRef name ++ ")," ++ otherwise ++ "," ++ fieldRef name ++ ")"

/-- The first non-null value of `name` and the names after it. The last one is read as it is. -/
def firstNonNull (name : String) : List String → String
  | [] => fieldRef name
  | next :: rest => orElse name (firstNonNull next rest)

/-- The first non-null value of a list of fields; a list without fields has none. -/
def firstNonNull? : List String → Option String
  | [] => none
  | name :: rest => some (firstNonNull name rest)

/-- The members of an object, named in ascending order; members of one name keep their order. -/
def sortMembers (members : List (String × String)) : List (String × String) :=
  members.mergeSort fun a b => a.1 ≤ b.1

/-- An object with a member for each pair of a name and an expression. -/
def jsonObject (members : List (String × String)) : String :=
  "json_object(" ++
    commaList ((sortMembers members).map fun (name, value) => literal name ++ "," ++ value) ++ ")"

end AuditSearch.Expression
