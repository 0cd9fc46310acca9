import AuditSearch.Toml.Reader
import AuditSearch.Toml.Value

/-!
# Blanks, strings and keys of TOML
-/

namespace AuditSearch.Toml

open Reader

def isSpace (c : Char) : Bool := c = ' ' || c = '\t'

/-- The characters that may stand as they are: everything but control characters, and tabs. -/
def isPlain (c : Char) : Bool := c = '\t' || (' ' ≤ c && c ≠ '\x7f')

/-- Spaces and tabs. -/
def spaces : Reader Unit := discard (many (satisfy isSpace))

/-- The end of a line. A carriage return counts only in front of a line feed. -/
def newline : Reader (List Char) :=
  (List.singleton <$> char '\n') <|> ((fun a b => [a, b]) <$> char '\r' <*> char '\n')

def comment : Reader Unit := do
  discard (char '#')
  discard (many (satisfy isPlain))

/-- Spaces, comments and ends of lines. -/
def blanks : Reader Unit :=
  discard (many (discard (satisfy isSpace) <|> discard newline <|> (comment <* newline)))

def hexDigit? (c : Char) : Option Nat :=
  if c.isDigit then some (c.toNat - '0'.toNat)
  else if 'a' ≤ c ∧ c ≤ 'f' then some (c.toNat - 'a'.toNat + 10)
  else if 'A' ≤ c ∧ c ≤ 'F' then some (c.toNat - 'A'.toNat + 10)
  else none

/-- The number that digits write in a base. -/
def ofDigits (base : Nat) (digits : List Char) : Nat :=
  digits.foldl (fun n c => n * base + (hexDigit? c).getD 0) 0

/-- The character whose code point is written with `count` hexadecimal digits. -/
def codePoint (count : Nat) : Reader Char := do
  let digits ← exactly (satisfy fun c => (hexDigit? c).isSome) count
  let code := ofDigits 16 digits
  if code.isValidChar then return Char.ofNat code else failure

/-- What stands after a backslash. -/
def escaped : Reader Char := do
  match ← satisfy fun _ => true with
  | 'b' => return '\x08'
  | 't' => return '\t'
  | 'n' => return '\n'
  | 'f' => return '\x0c'
  | 'r' => return '\r'
  | 'e' => return '\x1b'
  | '"' => return '"'
  | '\\' => return '\\'
  | 'x' => codePoint 2
  | 'u' => codePoint 4
  | 'U' => codePoint 8
  | _ => failure

def escape : Reader Char := char '\\' *> escaped

/-- A plain character other than the quote that ends the string, and the mark of an escape. -/
def stringChar (excluded : List Char) : Reader Char :=
  satisfy fun c => isPlain c && !excluded.contains c

/-- A string on one line, with escapes. -/
def basicString : Reader String := do
  discard (char '"')
  let chars ← many (stringChar ['"', '\\'] <|> escape)
  discard (char '"')
  return String.ofList chars

/-- A string on one line that is taken as it is. -/
def literalString : Reader String := do
  discard (char '\'')
  let chars ← many (stringChar ['\''])
  discard (char '\'')
  return String.ofList chars

/-- All the quotes that stand here. -/
def quotes (quote : Char) : Reader (List Char) := do
  let run ← many (char quote)
  if run = [] then failure else return run

/-- A backslash at the end of a line, with all the blanks that follow it. It stands for nothing. -/
def continuation : Reader (List Char) := do
  discard (char '\\')
  spaces
  discard newline
  discard (many (discard (satisfy isSpace) <|> discard newline))
  return []

/-- The rest of a string on several lines, after the three quotes that open it. An end of line
right there is not part of it. One or two quotes may stand anywhere, also before the three that
close it. -/
def multiline (quote : Char) (piece : Reader (List Char)) : Reader String := do
  discard (maybe newline)
  let inner := do
    let run ← quotes quote
    if run.length < 3 then return run else failure
  let pieces ← many (piece <|> newline <|> inner)
  let closing ← quotes quote
  if closing.length < 3 ∨ 5 < closing.length then failure
  else return String.ofList (pieces.flatten ++ closing.drop 3)

def multilineBasic : Reader String :=
  token "\"\"\"" *> multiline '"'
    (List.singleton <$> stringChar ['"', '\\'] <|> continuation <|> List.singleton <$> escape)

def multilineLiteral : Reader String :=
  token "'''" *> multiline '\'' (List.singleton <$> stringChar ['\''])

def string : Reader String :=
  multilineBasic <|> basicString <|> multilineLiteral <|> literalString

def isBare (c : Char) : Bool := c.isAlphanum || c = '_' || c = '-'

/-- One part of a key. -/
def keyPart : Reader String :=
  String.ofList <$> oneOrMore (satisfy isBare) <|> basicString <|> literalString

/-- How many parts a key may have. -/
def maxKeyParts : Nat := 80

/-- A key. Spaces are free around the dots. -/
def key : Reader Key := do
  let first ← keyPart
  let rest ← many (spaces *> char '.' *> spaces *> keyPart)
  if rest.length < maxKeyParts then return ⟨first, rest⟩ else failure

end AuditSearch.Toml
