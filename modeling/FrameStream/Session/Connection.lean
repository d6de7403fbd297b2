import FrameStream.Device
import FrameStream.Network.Socket
import FrameStream.Session.Creation

namespace FrameStream

inductive ConnectionError where
  | stream (error : StreamError)
  | socket (step : Network.ConnectionStep)
  deriving Repr

namespace Session

def ofCreation (result : Except CreationError value) : Except ConnectionError value :=
  result.mapError fun
    | .limiter error => .stream error
    | .stream error => .stream error

/-- Connects an input stream to a device. Gives the commands that making its limiter ran. -/
def connectInput (host : Network.Host) (device : Device) (layer : Layer)
    (parameters : InputParameters) (shaper : Shaper) (isReady : Bool) :
    Except ConnectionError (Session × List ShapingCommand) := do
  let configuration ← (InputConfiguration.ofParameters parameters layer).mapError .stream
  let remote := Network.SocketAddress.ofIp device.address parameters.devicePort
  let channel ←
    (host.connect parameters.hostAddress remote configuration.socketOptions).mapError .socket
  let limiter := LimiterRequest.select parameters.preference parameters.bytesPerSecond
    (channel.localAddress .host).ip (channel.remotePort .host)
  ofCreation ((overChannel channel shaper isReady).addInput host
    { layer, checkedLayer := layer, parameters, limiter })

def connectOutput (host : Network.Host) (device : Device) (layer : Layer)
    (parameters : OutputParameters) (isReady : Bool) : Except ConnectionError Session := do
  let configuration ← (OutputConfiguration.ofParameters parameters layer).mapError .stream
  let remote := Network.SocketAddress.ofIp device.address parameters.devicePort
  let channel ←
    (host.connect parameters.hostAddress remote configuration.socketOptions).mapError .socket
  let idle : Shaper := ⟨false, fun _ => none⟩
  ofCreation ((overChannel channel idle isReady).addOutput
    { layer, checkedLayer := layer, parameters })

end Session

end FrameStream
