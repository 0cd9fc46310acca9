/-!
# Readers

A `Reader` takes a value from the front of a text, or fails and takes nothing. Repetition always
ends, because `many` goes on only while the text gets shorter.
-/

namespace AuditSearch.Toml

/-- A text that is still to be read. Its length is kept beside it, since `many` asks for it often. -/
structure Pending where
  chars : List Char
  size : Nat := chars.length
  size_eq : size = chars.length := by rfl

abbrev Reader := StateT Pending Option

namespace Reader

variable {α β : Type}

/-- Takes a character that `accept` lets through. -/
def satisfy (accept : Char → Bool) : Reader Char
  | ⟨[], _, _⟩ => none
  | ⟨c :: rest, size, h⟩ => if accept c then some (c, ⟨rest, size - 1, by simp [h]⟩) else none

def char (c : Char) : Reader Char := satisfy (· = c)

/-- Takes exactly these characters. -/
def token (text : String) : Reader Unit :=
  text.toList.forM fun c => discard (char c)

def atEnd : Reader Unit := fun text =>
  if text.chars.isEmpty then some ((), text) else none

/-- Values from the front of `text` as long as there are any, and what is left. -/
def manyFrom (item : Reader α) (text : Pending) : List α × Pending :=
  match item text with
  | none => ([], text)
  | some (a, rest) =>
    if rest.size < text.size then
      let (as, rest) := manyFrom item rest
      (a :: as, rest)
    else ([], text)
termination_by text.size

def many (item : Reader α) : Reader (List α) := fun text => some (manyFrom item text)

def oneOrMore (item : Reader α) : Reader (List α) := do
  return (← item) :: (← many item)

/-- Reads `item` if it is there. -/
def maybe (item : Reader α) : Reader (Option α) :=
  some <$> item <|> pure none

/-- One or more values with separators between them. -/
def separated (item : Reader α) (separator : Reader β) : Reader (List α) := do
  return (← item) :: (← many (separator *> item))

/-- Exactly `count` values. -/
def exactly (item : Reader α) : Nat → Reader (List α)
  | 0 => pure []
  | count + 1 => do return (← item) :: (← exactly item count)

/-- Reads the whole of `text`. -/
def run? (reader : Reader α) (text : List Char) : Option α :=
  Prod.fst <$> (reader <* atEnd) ⟨text, text.length, rfl⟩

end Reader

end AuditSearch.Toml
