import FrameStream.Toml.Item
import FrameStream.Text.Reader

namespace FrameStream.Toml

/-- Whether a whole number fits into 64 bits with its sign. -/
def fitsInteger (value : Int) : Bool :=
  Int64.minValue.toInt ≤ value && value ≤ Int64.maxValue.toInt

namespace Reader

open FrameStream.Reader (character word isDigit digitsValue)

/-- Digits up to the first character that is neither a digit nor an underscore before one. -/
private def moreDigits (radix : Nat) : List Char → List Char × List Char
  | '_' :: next :: rest =>
    if isDigit radix next then
      let (digits, rest) := moreDigits radix rest
      (next :: digits, rest)
    else ([], '_' :: next :: rest)
  | next :: rest =>
    if isDigit radix next then
      let (digits, rest) := moreDigits radix rest
      (next :: digits, rest)
    else ([], next :: rest)
  | [] => ([], [])

def digits (radix : Nat) : Reader (List Char)
  | first :: rest => if isDigit radix first then some (moreDigits radix (first :: rest)) else none
  | [] => none

/-- Decimal digits of which the first is zero only if it stands alone. -/
def plainDigits : Reader (List Char)
  | '0' :: rest => some (['0'], rest)
  | text => digits 10 text

private def sign : List Char → Bool × List Char
  | '+' :: rest => (false, rest)
  | '-' :: rest => (true, rest)
  | text => (false, text)

/-- A whole number, decimal or with the sign of another base. -/
def integer : Reader Item := fun text => do
  let (value, rest) ← match text with
    | '0' :: 'x' :: rest => based 16 rest
    | '0' :: 'o' :: rest => based 8 rest
    | '0' :: 'b' :: rest => based 2 rest
    | text =>
      let (negative, text) := sign text
      let (digits, rest) ← plainDigits text
      let magnitude : Int := digitsValue 10 digits
      some (if negative then -magnitude else magnitude, rest)
  if fitsInteger value then some (.integer value, rest) else none
where
  based (radix : Nat) (text : List Char) : Option (Int × List Char) :=
    (digits radix text).map fun (digits, rest) => ((digitsValue radix digits : Nat), rest)

/-- The double nearest to `digits * 10 ^ exponent`. Beyond the range of doubles the digits do not
matter. -/
private def nearest (negative : Bool) (digits : List Char) (exponent : Int) : Float :=
  let significand := digitsValue 10 digits
  let magnitude := exponent + (Nat.toDigits 10 significand).length
  let value :=
    if significand = 0 || magnitude < -400 then 0.0
    else if 400 < magnitude then 1.0 / 0.0
    else Float.ofScientific significand (exponent < 0) exponent.natAbs
  if negative then -value else value

private def fraction : Reader (List Char) := fun text => do
  let (_, text) ← character '.' text
  digits 10 text

private def exponent : Reader Int := fun text => do
  let (_, text) ← (character 'e' text) <|> (character 'E' text)
  let (negative, text) := sign text
  let (digits, text) ← digits 10 text
  let magnitude : Int := digitsValue 10 digits
  return (if negative then -magnitude else magnitude, text)

/-- Infinity and what is not a number, by name. -/
private def namedFloat : Reader Float := fun text =>
  let (negative, text) := sign text
  let infinity : Float := 1.0 / 0.0
  match word "inf" text, word "nan" text with
  | some (_, rest), _ => some (if negative then -infinity else infinity, rest)
  | _, some (_, rest) => some (0.0 / 0.0, rest)
  | _, _ => none

/-- A number with a fraction, an exponent or both. One that is too large is refused only above
zero. -/
private def writtenFloat : Reader Float := fun text => do
  let (negative, text) := sign text
  let (whole, text) ← plainDigits text
  let fraction? := fraction text
  let (places, text) := fraction?.getD ([], text)
  let exponent? := exponent text
  let (power, text) := exponent?.getD (0, text)
  let value := nearest negative (whole ++ places) (power - places.length)
  let tooLarge := value == 1.0 / 0.0
  if (fraction?.isSome || exponent?.isSome) && !tooLarge then some (value, text) else none

def float : Reader Item := fun text =>
  ((writtenFloat text) <|> (namedFloat text)).map fun (value, rest) => (.float value, rest)

private def fixed (count least greatest : Nat) : Reader Nat := fun text =>
  let digits := text.take count
  let value := digitsValue 10 digits
  if digits.length = count ∧ digits.all (isDigit 10) ∧ least ≤ value ∧ value ≤ greatest then
    some (value, text.drop count)
  else none

private def daysOfMonth (year month : Nat) : Nat :=
  if month = 2 then
    if year % 4 = 0 ∧ (year % 100 ≠ 0 ∨ year % 400 = 0) then 29 else 28
  else if month = 4 ∨ month = 6 ∨ month = 9 ∨ month = 11 then 30
  else 31

private def date : Reader Unit := fun text => do
  let (year, text) ← fixed 4 0 9999 text
  let (_, text) ← character '-' text
  let (month, text) ← fixed 2 1 12 text
  let (_, text) ← character '-' text
  let (_, text) ← fixed 2 1 (daysOfMonth year month) text
  return ((), text)

private def clock : Reader Unit := fun text => do
  let (_, text) ← fixed 2 0 23 text
  let (_, text) ← character ':' text
  let (_, text) ← fixed 2 0 59 text
  return ((), text)

private def subsecond : Reader Unit := fun text => do
  let (_, text) ← character '.' text
  let digits := text.takeWhile (isDigit 10)
  if digits.isEmpty then none else some ((), text.dropWhile (isDigit 10))

/-- A time of day. A minute can have a leap second. -/
private def time : Reader Unit := fun text => do
  let (_, text) ← clock text
  let (_, text) ← character ':' text
  let (_, text) ← fixed 2 0 60 text
  return ((subsecond text).getD ((), text))

private def offset : Reader Unit
  | 'Z' :: rest | 'z' :: rest => some ((), rest)
  | '+' :: rest | '-' :: rest => clock rest
  | _ => none

/-- The time that may follow a date. -/
private def timeAfterDate : Reader Unit
  | 'T' :: rest | 't' :: rest | ' ' :: rest => do
    let (_, text) ← time rest
    return ((offset text).getD ((), text))
  | _ => none

/-- A date, a time, or a date with a time, which may have an offset. -/
def moment : Reader Item := fun text =>
  let dated := (date text).map fun (_, rest) => (timeAfterDate rest).getD ((), rest)
  (dated <|> time text).map fun (_, rest) => (.moment, rest)

/-- Whatever starts with a sign or a digit. -/
def number : Reader Item := fun text => (moment text) <|> (float text) <|> (integer text)

end Reader

end FrameStream.Toml
