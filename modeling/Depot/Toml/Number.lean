import Depot.Toml.Reader
import Depot.Value

/-!
# Numbers, dates and times

Whole numbers have 64 bits and are written to the base ten, sixteen, eight or two. Digits may be
set apart by single underscores. A number with a point or an exponent is kept as it is written,
as are dates and times; they only have to be possible.
-/

namespace Depot.Toml.Number

open Reader

/-! ## Numbers -/

/-- Digits with single underscores between some of them; answers the digits. -/
def digits (ok : Char → Bool) : Reader (List Char) :=
  List.cons <$> one ok <*> many (one ok <|> mark '_' *> one ok)

/-- A sign, if there is one; answers whether it is a minus. -/
def sign : Reader Bool :=
  (fun c => c == '-') <$> one (fun c => c == '+' || c == '-') <|> pure false

/-- Decimal digits, the first of several being no zero. -/
def whole : Reader (List Char) :=
  (do
    let found ← digits Text.isAsciiDigit
    if found.head? = some '0' ∧ 1 < found.length then failure else return found)
  <|> List.singleton <$> one Text.isAsciiDigit

/-- A number to a base that is named in front of it. -/
def based (name : List Char) (base : Nat) : Reader Int := do
  exactly name
  return Text.numeral base (← digits fun c => (Text.hexValue? c).any (· < base))

/-- A whole number. -/
def integer : Reader Int := do
  let n ← based ['0', 'x'] 16 <|> based ['0', 'o'] 8 <|> based ['0', 'b'] 2 <|> do
    let negative ← sign
    let n : Int := Text.numeral 10 (← whole)
    return if negative then -n else n
  if -0x8000000000000000 ≤ n ∧ n < 0x8000000000000000 then return n else failure

/-- The digits after a point. -/
def fraction : Reader (List Char) :=
  mark '.' *> digits Text.isAsciiDigit

/-- A power of ten. -/
def exponent : Reader Int := do
  let _ ← one fun c => c == 'e' || c == 'E'
  let negative ← sign
  let n : Int := Text.numeral 10 (← digits Text.isAsciiDigit)
  return if negative then -n else n

/-- Whether `m · 10 ^ e` is nearer to `2 ^ 1024` than to any number of 53 significant bits below
it, or beyond. -/
def isTooLarge (m : Nat) (e : Int) : Bool :=
  let limit := Nat.pow 2 1024 - Nat.pow 2 970
  let places := (Nat.toDigits 10 m).length + e
  if m = 0 ∨ places < 300 then false
  else if 320 < places then true
  else limit * Nat.pow 10 (-e).toNat ≤ m * Nat.pow 10 e.toNat

/-- A number with a point, an exponent or both. Large numbers below zero are put up with. -/
def real : Reader Unit := do
  let negative ← sign
  let front ← whole
  let (back, power) ← (([], ·) <$> exponent) <|>
    ((fun back power => (back, power.getD 0)) <$> fraction <*> optional exponent)
  if !negative && isTooLarge (Text.numeral 10 (front ++ back)) (power - back.length) then failure

/-- Infinity, or what is no number. -/
def unusual : Reader Unit :=
  sign *> (exactly ['i', 'n', 'f'] <|> exactly ['n', 'a', 'n'])

/-! ## Dates and times -/

/-- A number of so many digits, between two bounds. -/
def field (places low high : Nat) : Reader Nat := do
  let n := Text.numeral 10 (← counted places Text.isAsciiDigit)
  if low ≤ n ∧ n ≤ high then return n else failure

/-- How many days a month has. -/
def daysOf (year month : Nat) : Nat :=
  if month = 2 then
    if year % 4 = 0 ∧ (year % 100 ≠ 0 ∨ year % 400 = 0) then 29 else 28
  else if month = 4 ∨ month = 6 ∨ month = 9 ∨ month = 11 then 30
  else 31

/-- A day of the calendar. -/
def day : Reader Unit := do
  let year ← field 4 0 9999
  mark '-'
  let month ← field 2 1 12
  mark '-'
  let _ ← field 2 1 (daysOf year month)

/-- Hours and minutes. -/
def clock : Reader Unit :=
  field 2 0 23 *> mark ':' <* field 2 0 59

/-- A time of day; a minute may have a leap second. -/
def time : Reader Unit := do
  clock
  mark ':'
  let _ ← field 2 0 60
  let _ ← optional (mark '.' *> one Text.isAsciiDigit *> span Text.isAsciiDigit)

/-- How far the local time is from the universal one. -/
def zone : Reader Unit :=
  mark 'Z' <|> mark 'z' <|> (one fun c => c == '+' || c == '-') *> clock

/-- A day with a time and its zone, or any part of that which makes sense. -/
def moment : Reader Unit :=
  (do
    day
    let _ ← optional do
      let _ ← one fun c => c == 'T' || c == 't' || c == ' '
      time
      let _ ← optional zone)
  <|> time

/-- A number, a date or a time. -/
def read : Reader Value :=
  (fun cs => .date (String.ofList cs)) <$> written moment <|>
  (fun cs => .real (String.ofList cs)) <$> written (real <|> unusual) <|>
  .int <$> integer

end Depot.Toml.Number
