import AuditSearch.Toml.Scalar

/-!
# Documents of TOML

`Document.read?` gives the tables of a document, or `none` for a text that is not a document.
-/

namespace AuditSearch.Toml

open Reader

/-- How deep arrays and inline tables may stand in one another. -/
def maxNesting : Nat := 80

/-- The items of an array or an inline table, up to the bracket that closes it. A comma may follow
the last one. -/
def items {α : Type} (item : Reader α) (close : Char) : Reader (List α) := do
  blanks
  let found ← maybe do
    let all ← separated (item <* blanks) (char ',' *> blanks)
    discard (maybe (char ',' *> blanks))
    return all
  discard (char close)
  return found.getD []

/-- An assignment, whose value is read by `value`. What may stand on both sides of the equals sign
is read by `gap`. -/
def assignment (gap : Reader Unit) (value : Reader Value) : Reader (Key × Value) := do
  let key ← key
  gap
  discard (char '=')
  gap
  return (key, ← value)

/-- A value in which at most `depth` arrays and inline tables stand in one another. -/
def value (depth : Nat) : Reader Value :=
  match depth with
  | 0 => Value.string <$> string <|> scalar
  | depth + 1 =>
    Value.string <$> string <|> array (value depth) <|> inline (value depth) <|> scalar
where
  array (value : Reader Value) : Reader Value := do
    discard (char '[')
    return .array (← items value ']')
  inline (value : Reader Value) : Reader Value := do
    discard (char '\x7b')
    let assignments ← items (assignment blanks value) '\x7d'
    match Entries.ofInline? assignments with
    | some entries => return .table .inline entries
    | none => failure

/-- A header, between brackets that `before` and `after` read. -/
def header (before after : String) : Reader Key := do
  token before
  spaces
  let key ← key
  spaces
  token after
  return key

def statement : Reader Statement :=
  Statement.openElement <$> header "[[" "]]" <|> Statement.openTable <$> header "[" "]" <|>
    (fun (key, value) => Statement.assign key value) <$> assignment spaces (value maxNesting)

/-- A line, which holds at most one statement. -/
def line : Reader (Option Statement) := do
  spaces
  let found ← maybe statement
  spaces
  discard (maybe comment)
  return found

def statements : Reader (List Statement) := do
  let before ← many (line <* newline)
  let last ← line
  return (before ++ [last]).filterMap id

/-- The tables of a document. A byte order mark in front of it is passed over. -/
def Document.read? (text : String) : Option Entries := do
  let chars := match text.toList with
    | '\ufeff' :: rest => rest
    | chars => chars
  Document.ofStatements? (← statements.run? chars)

end AuditSearch.Toml
