namespace FrameStream.Decimal

/-- A double taken apart; a finite one is `mantissa * 2 ^ exponent`. -/
inductive DoubleParts where
  | nan
  | infinite (negative : Bool)
  | finite (negative : Bool) (mantissa : Nat) (exponent : Int)
  deriving DecidableEq, Repr

/-- The least exponent of a finite double, that of the subnormal numbers. -/
def leastExponent : Int := -1074

/-- The mantissa of a normal double lies from this number up to its double. -/
def hiddenBit : Nat := 1 <<< 52

def DoubleParts.ofFloat (number : Float) : DoubleParts :=
  let bits := number.toBits.toNat
  let negative := bits ≥ 1 <<< 63
  let biased := bits / hiddenBit % 2048
  let fraction := bits % hiddenBit
  if biased = 2047 then if fraction = 0 then .infinite negative else .nan
  else if biased = 0 then .finite negative fraction leastExponent
  else .finite negative (hiddenBit + fraction) (biased + leastExponent - 1)

/-- A quotient rounded to the nearest whole number, a tie going to the even neighbour. -/
def roundedQuotient (numerator denominator : Nat) : Nat :=
  let quotient := numerator / denominator
  let twice := 2 * (numerator % denominator)
  if twice < denominator then quotient
  else if denominator < twice then quotient + 1
  else quotient + quotient % 2

/-- The product `mantissa * 2 ^ exponent * factor`, rounded to the nearest whole number, a tie
going to the even neighbour. -/
def roundedProduct (mantissa : Nat) (exponent : Int) (factor : Nat) : Nat :=
  match exponent with
  | .ofNat power => mantissa <<< power * factor
  | .negSucc power => roundedQuotient (mantissa * factor) (1 <<< (power + 1))

/-- The whole part of `mantissa * 2 ^ exponent`. -/
def roundedDown (mantissa : Nat) (exponent : Int) : Nat :=
  match exponent with
  | .ofNat power => mantissa <<< power
  | .negSucc power => mantissa >>> (power + 1)

end FrameStream.Decimal
