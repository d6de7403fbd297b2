import FrameStream.Error
import FrameStream.Network.Host
import FrameStream.Pacing.LimiterKind
import FrameStream.Pacing.TokenBucket
import FrameStream.Shaping.Registry

namespace FrameStream

/-- One prepared answer of a scripted limiter. -/
inductive ScriptedAnswer where
  | wait (duration : Duration)
  | zeroRate
  | exceedsBurst
  deriving DecidableEq, Repr, Inhabited

/-- A limiter; a token bucket counts in the given kind of number. -/
inductive Limiter (quantity : Type) where
  | unlimited
  | tokenBucket (bucket : TokenBucket quantity)
  | trafficControl (rule : ShapingRule)
  /-- Gives the prepared answers in turn, then grants everything. -/
  | scripted (answers : List ScriptedAnswer)

namespace Limiter

variable {quantity : Type}

def kind : Limiter quantity → LimiterKind
  | .unlimited | .scripted _ => .unlimited
  | .tokenBucket _ => .tokenBucket
  | .trafficControl _ => .trafficControl

def debugText (limiter : Limiter quantity) : String :=
  Text.record "RateLimiter" [("kind", limiter.kind.title)] false

/-- Asks to send a payload; a zero answer is the permission. -/
def reserve [TokenQuantity quantity] (limiter : Limiter quantity) (now : Instant)
    (payload : Nat) : Limiter quantity × Except RateError Duration :=
  match limiter with
  | .tokenBucket bucket =>
    let (bucket, answer) := bucket.reserve now payload
    (.tokenBucket bucket, answer)
  | .scripted (.wait duration :: rest) => (.scripted rest, .ok duration)
  | .scripted (.zeroRate :: rest) => (.scripted rest, .error .zeroRate)
  | .scripted (.exceedsBurst :: rest) => (.scripted rest, .error (.exceedsBurst payload 0))
  | other => (other, .ok .zero)

end Limiter

structure Made (α : Type) where
  registry : Registry
  commands : List ShapingCommand := []
  events : List Event := []
  result : Except StreamError α

def Network.Host.interfaceFor (host : Network.Host) (address : Network.IpAddress) :
    Except ShapingError String :=
  match host.interfaceName? address with
  | some interface => .ok interface
  | none => .error (.interfaceNotFound address.text)

namespace ShapingRule

def unavailable : StreamError :=
  .ofShaping (.notSupported "kernel traffic shaping is unavailable on this host")

def installLimiter (rule : ShapingRule) (shaper : Shaper) (registry : Registry) :
    Made ShapingRule :=
  if !shaper.isAvailable then { registry, result := .error unavailable }
  else if rule.bytesPerSecond = 0 then { registry, result := .error (.rateLimit .zeroRate) }
  else
    let shaped := registry.install shaper rule
    match shaped.result with
    | .ok rule =>
      { registry := shaped.registry
        commands := shaped.commands
        events := shaped.events ++ [.limiterInstalled rule.text]
        result := .ok rule }
    | .error error =>
      { registry := shaped.registry
        commands := shaped.commands
        events := shaped.events
        result := .error (.ofShaping error) }

def installLimiterAt (host : Network.Host) (address : Network.IpAddress) (port : UInt16)
    (bytesPerSecond : UInt32) (shaper : Shaper) (registry : Registry) : Made ShapingRule :=
  if !shaper.isAvailable then { registry, result := .error unavailable }
  else
    match host.interfaceFor address with
    | .error error => { registry, result := .error (.ofShaping error) }
    | .ok interface => installLimiter ⟨interface, port, bytesPerSecond⟩ shaper registry

/-- Drops the limiter of a rule by removing the rule. A failure is only reported. -/
def dropLimiter (rule : ShapingRule) (shaper : Shaper) (registry : Registry) : Shaped Unit :=
  let shaped := registry.remove shaper rule
  let report :=
    match shaped.result with
    | .ok _ => Event.limiterRemoved rule.text
    | .error error => Event.limiterRemovalFailed rule.text error.message
  { shaped with events := shaped.events ++ [report] }

def limiterDebugText (rule : ShapingRule) : String :=
  Text.record "TrafficControlLimiter" [("handle", rule.debugText)] true

end ShapingRule

namespace Limiter

variable {quantity : Type}

/-- The limiter for a preference and a rate: none for the rate zero; traffic shaping where it is
preferred, or available to those without a preference; a token bucket otherwise. -/
def select [TokenQuantity quantity] (preference : LimiterPreference) (bytesPerSecond : UInt32)
    (host : Network.Host) (address : Network.IpAddress) (port : UInt16) (shaper : Shaper)
    (registry : Registry) (now : Instant) : Made (Limiter quantity) :=
  let shapes :=
    match preference with
    | .auto => shaper.isAvailable
    | .tokenBucket => false
    | .trafficControl => true
  let made : Made (Limiter quantity) :=
    if bytesPerSecond = 0 then { registry, result := .ok .unlimited }
    else if shapes then
      let made := ShapingRule.installLimiterAt host address port bytesPerSecond shaper registry
      { made with result := made.result.map .trafficControl }
    else
      { registry
        result :=
          match TokenBucket.create bytesPerSecond maximumDatagramPayload now with
          | .ok bucket => .ok (.tokenBucket bucket)
          | .error error => .error (.rateLimit error) }
  match made.result with
  | .ok limiter =>
    { made with
      events := made.events ++
        [.limiterSelected preference limiter.kind.text bytesPerSecond.toNat port.toNat] }
  | .error _ => made

def drop (limiter : Limiter quantity) (shaper : Shaper) (registry : Registry) : Shaped Unit :=
  match limiter with
  | .trafficControl rule => rule.dropLimiter shaper registry
  | _ => { registry, result := .ok () }

end Limiter

end FrameStream
