namespace FrameStream

inductive LimiterKind where
  | unlimited
  | tokenBucket
  | trafficControl
  deriving DecidableEq, Repr, Inhabited

namespace LimiterKind

def text : LimiterKind → String
  | .unlimited => "unlimited"
  | .tokenBucket => "token-bucket"
  | .trafficControl => "traffic-control"

def title : LimiterKind → String
  | .unlimited => "Unlimited"
  | .tokenBucket => "TokenBucket"
  | .trafficControl => "TrafficControl"

def all : List LimiterKind := [.unlimited, .tokenBucket, .trafficControl]

end LimiterKind

end FrameStream
