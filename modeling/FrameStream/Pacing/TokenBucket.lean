import FrameStream.Configuration.Parameters
import FrameStream.Pacing.Error
import FrameStream.Pacing.TokenQuantity

/-!
Token buckets: tokens arrive at a steady rate up to a capacity, and a payload leaves when there is
a token for each of its bytes.

A bucket starts empty, so that even the first payloads keep to the rate.
-/

namespace FrameStream

abbrev Instant := Nat

structure TokenBucket (quantity : Type) where
  rate : quantity
  capacity : quantity
  tokens : quantity
  lastRefill : Instant
  deriving Repr

namespace TokenBucket

variable {quantity : Type} [TokenQuantity quantity]

/-- An empty bucket. A rate of zero would never fill it. -/
def create (bytesPerSecond : UInt32) (capacity : Nat) (now : Instant) :
    Except RateError (TokenBucket quantity) :=
  if bytesPerSecond = 0 then .error .zeroRate
  else
    .ok {
      rate := TokenQuantity.ofCount bytesPerSecond.toNat
      capacity := TokenQuantity.ofCount capacity
      tokens := TokenQuantity.ofCount 0
      lastRefill := now }

def capacityCount (bucket : TokenBucket quantity) : Nat := TokenQuantity.toCount bucket.capacity

def refill (bucket : TokenBucket quantity) (now : Instant) : TokenBucket quantity :=
  let elapsed := TokenQuantity.seconds ⟨now - bucket.lastRefill⟩
  { bucket with
    tokens := TokenQuantity.least (bucket.tokens + elapsed * bucket.rate) bucket.capacity
    lastRefill := now }

/-- Asks for as many tokens as a payload has bytes. A zero answer has taken them; any other has
taken none and says how long to wait before asking again, at least a nanosecond. -/
def reserve (bucket : TokenBucket quantity) (now : Instant) (payload : Nat) :
    TokenBucket quantity × Except RateError Duration :=
  let demand : quantity := TokenQuantity.ofCount payload
  if TokenQuantity.atMost demand bucket.capacity then
    let filled := bucket.refill now
    if TokenQuantity.atMost demand filled.tokens then
      ({ filled with tokens := filled.tokens - demand }, .ok .zero)
    else
      match TokenQuantity.duration? ((demand - filled.tokens) / filled.rate) with
      | some wait => (filled, .ok ⟨max wait.nanoseconds 1⟩)
      | none => (filled, .error .endlessWait)
  else (bucket, .error (.exceedsBurst payload bucket.capacityCount))

end TokenBucket

end FrameStream
