import AuditSearch.Text.Split
import AuditSearch.Toml.Text

/-!
# Numbers, truth values and times of TOML

What is written without quotes is a word. Each kind of value reads a whole word.
-/

namespace AuditSearch.Toml

open Reader

/-- The characters of which words consist, besides dots and spaces. -/
def isWordChar (c : Char) : Bool :=
  c ∉ ['=', ',', '[', ']', '\x7b', '\x7d', '#', '.', ' ', '\t', '\r', '\n']

/-- A run of word characters. A quote may stand anywhere but in front. -/
def wordRun : Reader (List Char) := do
  let first ← satisfy fun c => isWordChar c && c ≠ '"' && c ≠ '\''
  return first :: (← many (satisfy isWordChar))

/-- A word, with the dots between its runs and the spaces in front of them. -/
def word : Reader (List Char) := do
  let first ← wordRun
  let rest ← many (List.singleton <$> char '.' <|>
    (· ++ ·) <$> many (satisfy isSpace) <*> wordRun)
  return first ++ rest.flatten

/-- Digits, with single underscores between them. -/
def digitRun (accept : Char → Bool) : Reader (List Char) := do
  let first ← satisfy accept
  let rest ← many (maybe (char '_') *> satisfy accept)
  return first :: rest

def sign : Reader Bool :=
  (fun c => c = '-') <$> satisfy fun c => c = '+' || c = '-'

/-- An integer in another base. It has no sign, and it is garbled if it has no digits. -/
def based (letter : Char) (base : Nat) : Reader Value := do
  discard (char '0')
  discard (char letter)
  match ← maybe (digitRun fun c => (hexDigit? c).any (· < base)) with
  | some digits => return .integer (ofDigits base digits)
  | none => return .garbled

def signed (negative : Bool) (n : Nat) : Int := if negative then -n else n

/-- The sign of a number in base ten, and whether its integral part may start with needless zeros,
which is so after an underscore. -/
def numberSign : Reader (Bool × Bool) := do
  match ← maybe sign with
  | none => return (false, false)
  | some negative => return (negative, (← maybe (char '_')).isSome)

/-- A number in base ten. It is an integer unless it has a fraction or an exponent. -/
def number : Reader Value := do
  let (negative, zeros) ← numberSign
  let whole ← digitRun Char.isDigit
  if ¬zeros ∧ whole.length ≠ 1 ∧ whole.head? = some '0' then failure
  let fraction ← maybe (char '.' *> digitRun Char.isDigit)
  let exponent ← maybe do
    discard (satisfy fun c => c = 'e' || c = 'E')
    let negative := (← maybe sign).getD false
    return signed negative (ofDigits 10 (← digitRun Char.isDigit))
  if fraction.isNone ∧ exponent.isNone then
    return .integer (signed negative (ofDigits 10 whole))
  else
    let places := fraction.getD []
    return .decimal negative (ofDigits 10 (whole ++ places)) (exponent.getD 0 - places.length)

def special : Reader Value := do
  let negative := (← maybe sign).getD false
  (do token "inf"; return .infinity negative) <|> (do token "nan"; return .nan)

def boolean : Reader Value :=
  (do token "true"; return .boolean true) <|> (do token "false"; return .boolean false)

/-- A number of exactly `count` digits that is at least `least` and at most `most`. -/
def bounded (count least most : Nat) : Reader Nat := do
  let n := ofDigits 10 (← exactly (satisfy Char.isDigit) count)
  if least ≤ n ∧ n ≤ most then return n else failure

def daysInMonth (year month : Nat) : Nat :=
  if month = 2 then
    if year % 4 = 0 ∧ (year % 100 ≠ 0 ∨ year % 400 = 0) then 29 else 28
  else if month ∈ [4, 6, 9, 11] then 30
  else 31

def date : Reader Unit := do
  let year ← bounded 4 0 9999
  discard (char '-')
  let month ← bounded 2 1 12
  discard (char '-')
  discard (bounded 2 1 (daysInMonth year month))

/-- A time of day. Seconds may be left out, and a second may be a leap second. -/
def time : Reader Unit := do
  discard (bounded 2 0 23)
  discard (char ':')
  discard (bounded 2 0 59)
  discard (maybe do
    discard (char ':')
    discard (bounded 2 0 60)
    discard (maybe (char '.' *> oneOrMore (satisfy Char.isDigit))))

/-- The distance from universal time. -/
def offset : Reader Unit :=
  discard (satisfy fun c => c = 'Z' || c = 'z') <|> do
    discard sign
    discard (bounded 2 0 23)
    discard (char ':')
    discard (bounded 2 0 59)

def moment : Reader Value := do
  (do
    date
    discard (maybe do
      discard (satisfy fun c => c = 'T' || c = 't' || c = ' ')
      time
      discard (maybe offset))) <|> time
  return .moment

/-- Whether a word has the outline of an integer in base ten: digits, or a sign alone, and further
parts after underscores. A part starts with a hexadecimal digit, and ends with one where another
part follows; a point, the letter of an exponent or a space makes it something else. -/
def isGarbled (word : List Char) : Bool :=
  match Text.splitChars '_' word with
  | [] => false
  | first :: parts =>
    !parts.isEmpty && opens first && parts.all (isHex ·.head?) &&
      parts.dropLast.all (isHex ·.getLast?) &&
      parts.flatten.all fun c => c ∉ ['.', 'e', 'E', ' ']
where
  isHex (c : Option Char) : Bool := (c.bind hexDigit?).isSome
  opens : List Char → Bool
    | [] => false
    | c :: rest =>
      if c = '+' ∨ c = '-' then rest.all Char.isDigit && rest.head? ≠ some '0'
      else rest.all Char.isDigit && c.isDigit && c ≠ '0'

/-- The value of a word. -/
def ofWord? (word : List Char) : Option Value :=
  (moment <|> based 'x' 16 <|> based 'o' 8 <|> based 'b' 2 <|> number <|> special <|>
    boolean).run? word <|> if isGarbled word then some .garbled else none

def scalar : Reader Value := do
  match ofWord? (← word) with
  | some value => return value
  | none => failure

end AuditSearch.Toml
