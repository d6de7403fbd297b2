import FrameStream.Duration
import FrameStream.Network.Address
import FrameStream.SyncMarker

namespace FrameStream

/-- The largest payload of a datagram that a path of 1500 bytes carries. -/
def maximumDatagramPayload : Nat := 1472

/-- The time limit of a stream that was given none. -/
def defaultTimeout : Duration := .ofSeconds 10

/-- Which limiter an input stream would rather have. -/
inductive LimiterPreference where
  | auto
  | tokenBucket
  | trafficControl
  deriving DecidableEq, Repr, Inhabited

def LimiterPreference.keyword : LimiterPreference → String
  | .auto => "auto"
  | .tokenBucket => "token_bucket"
  | .trafficControl => "traffic_control"

def LimiterPreference.title : LimiterPreference → String
  | .auto => "Auto"
  | .tokenBucket => "TokenBucket"
  | .trafficControl => "TrafficControl"

structure InputParameters where
  hostAddress : Network.SocketAddress := .v4 .any 0
  devicePort : UInt16 := 0
  syncEnabled : Bool := false
  framesPerSync : UInt32 := 1
  markerSize : UInt16 := 8
  maximumPayload : UInt16 := 1472
  padsFrames : Bool := false
  buffersThreshold : UInt32 := 0
  bytesPerSecond : UInt32 := 0
  preference : LimiterPreference := .auto
  timeoutMilliseconds : UInt64 := 10000
  deriving DecidableEq, Repr, Inhabited

def InputParameters.timeout (parameters : InputParameters) : Duration :=
  .ofMilliseconds parameters.timeoutMilliseconds.toNat

structure OutputParameters where
  hostAddress : Network.SocketAddress := .v4 .any 0
  devicePort : UInt16 := 0
  syncEnabled : Bool := false
  markerSize : UInt16 := 8
  maximumPayload : UInt16 := 1472
  buffersThreshold : UInt32 := 0
  timeoutMilliseconds : UInt64 := 10000
  deriving DecidableEq, Repr, Inhabited

def OutputParameters.timeout (parameters : OutputParameters) : Duration :=
  .ofMilliseconds parameters.timeoutMilliseconds.toNat

end FrameStream
