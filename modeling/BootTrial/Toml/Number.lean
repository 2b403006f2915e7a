import BootTrial.Toml.Text

/-!
# Numbers and dates of a settings file

No setting takes a number or a date, so the readers here only say where one stands and whether it is
well formed: an integer has to fit in 64 bits with a sign, a number with a fraction must not be too
large for a double, and a date has to be one of the calendar.
-/

namespace BootTrial.Toml

open Reader

/-- Whether a character is a digit from `0` to `9`. -/
def isDigit (c : Char) : Bool :=
  '0' ≤ c && c ≤ '9'

/-- Takes one digit or more, of which any two may have an underscore between them. The underscores
are left out. -/
def digitRow (p : Char → Bool) : Reader (List Char) := do
  let first ← one p
  let rest ← repeated (one p <|> do char '_'; one p)
  return first :: rest

/-- Takes a sign and says whether it is a minus. -/
def sign : Reader Bool := do
  match ← optional (one fun c => c = '+' || c = '-') with
  | some '-' => return true
  | _ => return false

/-- Takes a decimal integer: whether it is negative, and its digits. No zero leads. -/
def decimal : Reader (Bool × List Char) := do
  let isNegative ← sign
  let zero : Reader (List Char) := do return [← one (· = '0')]
  let digits ← zero <|> digitRow isDigit
  return (isNegative, digits)

/-- One more than the largest integer. -/
def integerLimit : Nat := Nat.pow 2 63

/-- Takes an integer in another base, below the limit. -/
def inBase (mark : Char) (base : Nat) : Reader Unit := do
  chars ['0', mark]
  let digits ← digitRow fun c => (hexDigit? c).any (· < base)
  if valueIn base digits < integerLimit then pure () else failure

/-- Takes a decimal integer within its limits. -/
def decimalInteger : Reader Unit := do
  let (isNegative, digits) ← decimal
  let n := valueIn 10 digits
  if n < integerLimit || (isNegative && n = integerLimit) then pure () else failure

/-- Takes an integer. -/
def integer : Reader Unit :=
  inBase 'x' 16 <|> inBase 'o' 8 <|> inBase 'b' 2 <|> decimalInteger

/-- The least number that is nearer to `2 ^ 1024` than to any double, or as near. -/
def doubleLimit : Nat := Nat.pow 2 1024 - Nat.pow 2 970

/-- Whether `mantissa * 10 ^ exponent` is too large for a double. -/
def overflows (mantissa : Nat) (exponent : Int) : Bool :=
  if mantissa = 0 then false
  else
    let size := (Nat.toDigits 10 mantissa).length + exponent
    if 310 < size then true
    else if size < 309 then false
    else if 0 ≤ exponent then doubleLimit ≤ mantissa * Nat.pow 10 exponent.toNat
    else doubleLimit * Nat.pow 10 (-exponent).toNat ≤ mantissa

/-- Takes an exponent. -/
def exponent : Reader Int := do
  let _ ← one fun c => c = 'e' || c = 'E'
  let isNegative ← sign
  let n := valueIn 10 (← digitRow isDigit)
  return if isNegative then -n else n

/-- Takes a fraction. -/
def fraction : Reader (List Char) := do
  char '.'
  digitRow isDigit

/-- Takes a number with a fraction, an exponent, or both. -/
def floatingPoint : Reader Unit := do
  let (isNegative, whole) ← decimal
  let part ← optional fraction
  let power ← optional exponent
  if part.isNone && power.isNone then failure
  let places := part.getD []
  if !isNegative && overflows (valueIn 10 (whole ++ places)) (power.getD 0 - places.length) then
    failure

/-- Takes infinity or the number that is none. -/
def special : Reader Unit := do
  let _ ← sign
  chars ['i', 'n', 'f'] <|> chars ['n', 'a', 'n']

/-- Takes `n` digits whose value lies between two bounds. -/
def field (n low high : Nat) : Reader Nat := do
  let value := valueIn 10 (← exactly isDigit n)
  if low ≤ value && value ≤ high then return value else failure

/-- The number of days in a month. -/
def daysIn (year month : Nat) : Nat :=
  if month = 2 then
    if year % 4 = 0 && (year % 100 ≠ 0 || year % 400 = 0) then 29 else 28
  else if [4, 6, 9, 11].contains month then 30
  else 31

/-- Takes a date. -/
def date : Reader Unit := do
  let year ← field 4 0 9999
  char '-'
  let month ← field 2 1 12
  char '-'
  let _ ← field 2 1 (daysIn year month)

/-- Takes a time of day. -/
def time : Reader Unit := do
  let _ ← field 2 0 23
  char ':'
  let _ ← field 2 0 59
  char ':'
  let _ ← field 2 0 60
  let _ ← optional do char '.'; some1 isDigit

/-- Takes the distance of a time zone. -/
def zone : Reader Unit := do
  let zulu : Reader Unit := do
    let _ ← one fun c => c = 'Z' || c = 'z'
  zulu <|> do
    let _ ← one fun c => c = '+' || c = '-'
    let _ ← field 2 0 23
    char ':'
    let _ ← field 2 0 59

/-- Takes a date, a time, or a date with a time. -/
def moment : Reader Unit :=
  (do
    date
    let _ ← optional do
      let _ ← one fun c => c = 'T' || c = 't' || c = ' '
      time
      optional zone)
  <|> time

end BootTrial.Toml
