import FrameStream.Channel
import FrameStream.Configuration
import FrameStream.Network.Host

namespace FrameStream

namespace Network

/-- How a socket is set up. The sizes of buffers that are not given are the host's. -/
structure SocketOptions where
  receiveBuffer? : Option Nat := none
  sendBuffer? : Option Nat := none
  maximumPayload : Nat := maximumDatagramPayload
  deriving DecidableEq, Repr, Inhabited

/-- Limits the payload of a datagram. No limit allows more than a path carries. -/
def SocketOptions.withMaximumPayload (options : SocketOptions) (size : Nat) : SocketOptions :=
  { options with maximumPayload := min size maximumDatagramPayload }

inductive ConnectionStep where
  | bind
  | connect
  deriving DecidableEq, Repr, Inhabited

def ConnectionStep.text : ConnectionStep → String
  | .bind => "bind"
  | .connect => "connect"

def Host.connect (host : Host) (localAddress remote : SocketAddress) (options : SocketOptions) :
    Except ConnectionStep Channel :=
  if !host.bindable localAddress then .error .bind
  else if !host.reaches localAddress remote then .error .connect
  else .ok (.between localAddress remote options.maximumPayload)

end Network

/-- The buffer that holds as many payloads as a threshold says; a threshold of zero asks for
none. -/
def Framing.buffer? (framing : Framing) (threshold : UInt32) : Option Nat :=
  if threshold = 0 then none else some (threshold.toNat * framing.maximumPayload)

def InputConfiguration.socketOptions (configuration : InputConfiguration) :
    Network.SocketOptions :=
  let buffer? := configuration.buffer? configuration.buffersThreshold
  { sendBuffer? := buffer? : Network.SocketOptions }.withMaximumPayload
    configuration.maximumPayload

def OutputConfiguration.socketOptions (configuration : OutputConfiguration) :
    Network.SocketOptions :=
  let buffer? := configuration.buffer? configuration.buffersThreshold
  { receiveBuffer? := buffer? : Network.SocketOptions }.withMaximumPayload
    configuration.maximumPayload

end FrameStream
