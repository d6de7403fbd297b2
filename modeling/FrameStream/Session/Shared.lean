import FrameStream.Pacing.TokenBucket
import FrameStream.Session.Port
import FrameStream.Timeline

namespace FrameStream

structure Shared where
  channel : Channel
  /-- Whether the device's graph is activated. -/
  isReady : Bool
  deriving Repr, Inhabited

/-- Times are kept in milliseconds, and given to limiters in nanoseconds. -/
def instantOf (milliseconds : Nat) : Instant := (Duration.ofMilliseconds milliseconds).nanoseconds

end FrameStream
