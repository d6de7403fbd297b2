import FrameStream.Session

namespace FrameStream

inductive LimiterRequest where
  | unlimited
  | tokenBucket (bytesPerSecond : UInt32) (capacity? : Option Nat)
  | trafficControl (rule : ShapingRule)
  | select (preference : LimiterPreference) (bytesPerSecond : UInt32)
      (address : Network.IpAddress) (port : UInt16)
  | scripted (answers : List ScriptedAnswer)
  deriving Repr, Inhabited

def LimiterRequest.make [TokenQuantity quantity] (request : LimiterRequest)
    (host : Network.Host) (shaper : Shaper) (registry : Registry) (now : Instant) :
    Made (Limiter quantity) :=
  match request with
  | .unlimited => { registry, result := .ok .unlimited }
  | .tokenBucket bytesPerSecond capacity? =>
    let capacity := capacity?.getD maximumDatagramPayload
    { registry
      result :=
        match TokenBucket.create bytesPerSecond capacity now with
        | .ok bucket => .ok (.tokenBucket bucket)
        | .error error => .error (.rateLimit error) }
  | .trafficControl rule =>
    let made := rule.installLimiter shaper registry
    { made with result := made.result.map .trafficControl }
  | .select preference bytesPerSecond address port =>
    Limiter.select preference bytesPerSecond host address port shaper registry now
  | .scripted answers => { registry, result := .ok (.scripted answers) }

structure InputRequest where
  layer : Layer
  /-- The layer that the configuration is checked against. -/
  checkedLayer : Layer
  parameters : InputParameters
  limiter : LimiterRequest := .unlimited
  deriving Repr

structure OutputRequest where
  layer : Layer
  checkedLayer : Layer
  parameters : OutputParameters
  deriving Repr

/-- Why a stream could not be added to a session. -/
inductive CreationError where
  | limiter (error : StreamError)
  | stream (error : StreamError)
  deriving Repr

namespace Session

def overChannel (channel : Channel) (shaper : Shaper) (isReady : Bool) : Session :=
  { shared := { channel, isReady }, shaper }

/-- Adds the input stream at the host's end. Gives the commands that making its limiter ran. -/
def addInput (session : Session) (host : Network.Host) (request : InputRequest) :
    Except CreationError (Session × List ShapingCommand) := do
  let configuration ←
    (InputConfiguration.ofParameters request.parameters request.checkedLayer).mapError .stream
  let made := request.limiter.make host session.shaper session.registry 0
  let limiter ← made.result.mapError .limiter
  let created ← (InputStream.create request.layer configuration session.shared.channel.pathLimit
    limiter.kind).mapError .stream
  let stream := { created.value with timeout := request.parameters.timeout }
  let input : InputSide Float := { stream, limiter, port := { side := .host } }
  let session := { session with registry := made.registry, input? := some input }
  return (session.report (made.events ++ created.events), made.commands)

/-- Adds the output stream, at the device's end if the host's end is taken. -/
def addOutput (session : Session) (request : OutputRequest) : Except CreationError Session := do
  let configuration ←
    (OutputConfiguration.ofParameters request.parameters request.checkedLayer).mapError .stream
  let created ← (OutputStream.create request.layer configuration
    session.shared.channel.pathLimit).mapError .stream
  let stream := { created.value with timeout := request.parameters.timeout }
  let side := if session.input?.isSome then Side.device else .host
  let output : OutputSide := { stream, port := { side } }
  return { session with output? := some output }.report created.events

end Session

end FrameStream
