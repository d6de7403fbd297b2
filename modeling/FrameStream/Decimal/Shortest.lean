import FrameStream.Decimal.Double

/-!
The decimal text of a double with the fewest digits that read back as the same double.

For each count of digits the two neighbours of the number on that decimal grid are tested against
the interval of reals that round to it; the first grid with a hit wins, and of two hits the
nearer.
-/

namespace FrameStream.Decimal

/-- A positive decimal fraction `0.d₁d₂… * 10 ^ exponent`, given by its digits. -/
structure Digits where
  digits : List Char
  exponent : Int
  deriving DecidableEq, Repr

/-- A number, the ends of the interval of reals that round to it and whether the ends belong to
the interval. The three numbers are over one denominator. -/
structure Rounding where
  low : Nat
  value : Nat
  high : Nat
  denominator : Nat
  closed : Bool

/-- The interval of a finite positive double. Below the least mantissa of an exponent the doubles
lie half as far apart. -/
def Rounding.ofParts (mantissa : Nat) (exponent : Int) : Rounding :=
  let below := if mantissa = hiddenBit ∧ exponent ≠ leastExponent then 1 else 2
  let quarter := exponent - 2
  let scale := 1 <<< quarter.toNat
  { low := (4 * mantissa - below) * scale
    value := 4 * mantissa * scale
    high := (4 * mantissa + 2) * scale
    denominator := 1 <<< (-quarter).toNat
    closed := mantissa % 2 = 0 }

/-- How many zeros follow the decimal point of a positive fraction below one. -/
private def leadingZeros (numerator denominator : Nat) : Nat → Nat
  | 0 => 0
  | limit + 1 =>
    if denominator ≤ numerator * 10 then 0
    else leadingZeros (numerator * 10) denominator limit + 1

/-- The power of ten just above the number. -/
private def Rounding.magnitude (rounding : Rounding) : Int :=
  let whole := rounding.value / rounding.denominator
  if whole = 0 then -(leadingZeros rounding.value rounding.denominator 400 : Int)
  else (Nat.toDigits 10 whole).length

/-- The best point of the grid of multiples of `10 ^ place`, if one lies in the interval. -/
private def Rounding.gridPoint? (rounding : Rounding) (place : Int) : Option Nat :=
  let up := Nat.pow 10 (-place).toNat
  let unit := rounding.denominator * Nat.pow 10 place.toNat
  let value := rounding.value * up
  let lower := value / unit
  let inside (point : Nat) : Bool :=
    if rounding.closed then rounding.low * up ≤ point * unit && point * unit ≤ rounding.high * up
    else rounding.low * up < point * unit && point * unit < rounding.high * up
  match inside lower, inside (lower + 1) with
  | true, true => some (if 2 * (value % unit) < unit then lower else lower + 1)
  | true, false => some lower
  | false, true => some (lower + 1)
  | false, false => none

/-- The fewest digits that stand for the number; seventeen always do. -/
def Rounding.shortest (rounding : Rounding) : Digits :=
  let magnitude := rounding.magnitude
  let attempt (fewer : Nat) : Option (Int × Nat) :=
    let place : Int := magnitude - (fewer + 1 : Nat)
    (rounding.gridPoint? place).map (place, ·)
  match (List.range 17).findSome? attempt with
  | some (place, point) =>
    let all := Nat.toDigits 10 point
    { digits := (all.reverse.dropWhile (· == '0')).reverse
      exponent := place + (all.length : Nat) }
  | none => { digits := [], exponent := 0 }

/-- Writes digits in positional notation; a whole number has no point. -/
def Digits.positional (decimal : Digits) : String :=
  let count := decimal.digits.length
  if decimal.exponent ≤ 0 then
    String.ofList ('0' :: '.' :: List.replicate (-decimal.exponent).toNat '0' ++ decimal.digits)
  else
    let whole := decimal.exponent.toNat
    if count ≤ whole then
      String.ofList (decimal.digits ++ List.replicate (whole - count) '0')
    else
      String.ofList (decimal.digits.take whole ++ '.' :: decimal.digits.drop whole)

/-- The text of a double: the fewest digits in positional notation, with `.0` after a whole number,
and words for what is not finite. -/
def floatText (number : Float) : String :=
  match DoubleParts.ofFloat number with
  | .nan => "NaN"
  | .infinite negative => if negative then "-inf" else "inf"
  | .finite negative mantissa exponent =>
    let sign := if negative then "-" else ""
    if mantissa = 0 then sign ++ "0.0"
    else
      let text := (Rounding.ofParts mantissa exponent).shortest.positional
      sign ++ if text.contains '.' then text else text ++ ".0"

end FrameStream.Decimal
