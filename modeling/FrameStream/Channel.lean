import FrameStream.Bytes
import FrameStream.Network.Address
import FrameStream.Transport.Error

namespace FrameStream

inductive Side where
  | host
  | device
  deriving DecidableEq, Repr, Inhabited

def Side.peer : Side → Side
  | .host => .device
  | .device => .host

/-- One end of a channel. A chunk limit of zero is none. -/
structure Endpoint where
  address : Network.SocketAddress
  inbox : List Bytes := []
  sent : List Bytes := []
  chunkLimit : Nat := 0
  isOpen : Bool := true
  deriving Repr, Inhabited

structure Channel where
  pathLimit : Nat
  host : Endpoint
  device : Endpoint
  deriving Repr, Inhabited

namespace Channel

/-- A channel between two addresses with nothing on its way. -/
def between (host device : Network.SocketAddress) (pathLimit : Nat) : Channel :=
  { pathLimit, host := { address := host }, device := { address := device } }

def inMemory (pathLimit : Nat) : Channel :=
  between (.v4 .loopback 50000) (.v4 .loopback 50001) pathLimit

def endpoint (channel : Channel) : Side → Endpoint
  | .host => channel.host
  | .device => channel.device

def update (channel : Channel) (side : Side) (change : Endpoint → Endpoint) : Channel :=
  match side with
  | .host => { channel with host := change channel.host }
  | .device => { channel with device := change channel.device }

def localAddress (channel : Channel) (side : Side) : Network.SocketAddress :=
  (channel.endpoint side).address

def remotePort (channel : Channel) (side : Side) : UInt16 :=
  (channel.endpoint side.peer).address.port

def inject (channel : Channel) (side : Side) (datagram : Bytes) : Channel :=
  channel.update side fun endpoint => { endpoint with inbox := endpoint.inbox ++ [datagram] }

/-- How many of the bytes offered a single send takes. -/
def Endpoint.accepted (endpoint : Endpoint) (offered : Nat) : Nat :=
  if endpoint.chunkLimit = 0 then offered else min offered endpoint.chunkLimit

/-- Sends as much of a payload as fits into one datagram. Fails if the peer is gone. -/
def send (channel : Channel) (side : Side) (payload : Bytes) :
    Channel × Except TransportError Nat :=
  let accepted := Endpoint.accepted (channel.endpoint side) payload.length
  let datagram := payload.take accepted
  if (channel.endpoint side.peer).isOpen then
    let recorded := channel.update side fun endpoint =>
      { endpoint with sent := endpoint.sent ++ [datagram] }
    (recorded.inject side.peer datagram, .ok accepted)
  else (channel, .error (.closed "send"))

/-- Takes the oldest datagram from an end's queue, cut to the size of the buffer. The queue of an
open end is never closed, because the end itself can add to it. -/
def receive? (channel : Channel) (side : Side) (size : Nat) : Option (Channel × Bytes) :=
  match (channel.endpoint side).inbox with
  | [] => none
  | datagram :: rest =>
    some (channel.update side fun endpoint => { endpoint with inbox := rest }, datagram.take size)

/-- Receives from `now` on, while nobody sends. Tells when it ended. -/
def receiveWithin (channel : Channel) (side : Side) (size now : Nat) (limit : Duration) :
    Nat × Channel × Except TransportError Bytes :=
  match channel.receive? side size with
  | some (channel, datagram) => (now, channel, .ok datagram)
  | none => (now + limit.milliseconds, channel, .error (.timeout "receive" limit))

def takeSent (channel : Channel) (side : Side) : Channel × List Bytes :=
  (channel.update side fun endpoint => { endpoint with sent := [] }, (channel.endpoint side).sent)

def setChunkLimit (channel : Channel) (side : Side) (limit : Nat) : Channel :=
  channel.update side fun endpoint => { endpoint with chunkLimit := limit }

def close (channel : Channel) (side : Side) : Channel :=
  channel.update side fun endpoint => { endpoint with isOpen := false, inbox := [] }

end Channel

end FrameStream
