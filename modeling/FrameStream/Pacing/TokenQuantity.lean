import FrameStream.Decimal.Double
import FrameStream.Duration

/-!
The arithmetic of a token bucket.

A bucket counts tokens in some kind of number. What it needs of them is collected here, so that
one bucket can be run with doubles and reasoned about with exact fractions.
-/

namespace FrameStream

class TokenQuantity (quantity : Type) extends Add quantity, Sub quantity, Mul quantity,
    Div quantity where
  ofCount : Nat → quantity
  /-- The whole part, as a count. -/
  toCount : quantity → Nat
  atMost : quantity → quantity → Bool
  /-- A duration in seconds. -/
  seconds : Duration → quantity
  /-- The nearest duration to a number of seconds, unless it is longer than any duration. -/
  duration? : quantity → Option Duration

namespace TokenQuantity

variable {quantity : Type} [TokenQuantity quantity]

def least (first second : quantity) : quantity := if atMost first second then first else second

end TokenQuantity

/-- The longest duration has fewer seconds than this. -/
def secondsLimit : Nat := UInt64.size

/-- The duration nearest to a double, a tie going to the even count of nanoseconds. -/
def Duration.ofFloatSeconds? (seconds : Float) : Option Duration :=
  match Decimal.DoubleParts.ofFloat seconds with
  | .finite false mantissa exponent =>
    if secondsLimit ≤ Decimal.roundedDown mantissa exponent then none
    else some ⟨Decimal.roundedProduct mantissa exponent 1000000000⟩
  | _ => none

/-- Seconds and the nanoseconds beyond them are converted apart and added. -/
def Duration.floatSeconds (duration : Duration) : Float :=
  Float.ofNat (duration.nanoseconds / 1000000000) +
    Float.ofNat (duration.nanoseconds % 1000000000) / 1e9

instance : TokenQuantity Float where
  ofCount := Float.ofNat
  toCount tokens := tokens.toUInt64.toNat
  atMost first second := first ≤ second
  seconds := Duration.floatSeconds
  duration? := Duration.ofFloatSeconds?

end FrameStream
