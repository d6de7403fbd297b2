import FrameStream.Channel

/-!
Calls to a transport that take time.

A stream reaches its channel through a port. A script can prepare what the next calls meet; a call
that meets nothing prepared goes to the channel. A send is answered at once, unless it hangs until
its time limit; a receive waits for a datagram until its time limit.
-/

namespace FrameStream

/-- What one call to the transport meets. -/
inductive TransportAct where
  /-- The channel as it is. -/
  | ordinary
  /-- A send that is said to take `count` bytes, whatever was offered. -/
  | accept (count : Nat)
  | failure (failure : IoFailure)
  /-- The time limit, at once. -/
  | timeout
  | closed
  /-- No answer: a send gives up at its time limit, a receive never does. -/
  | silence
  deriving DecidableEq, Repr, Inhabited

/-- How far a call has come. -/
inductive Call where
  | unmade
  /-- Made, and answered by this moment at the latest. -/
  | due (deadline : Nat)
  | endless
  deriving DecidableEq, Repr, Inhabited

/-- When a call goes on by itself. -/
def Call.wakeUp : Call → Option Nat
  | .due deadline => some deadline
  | _ => none

inductive CallOutcome (fault value : Type) where
  | pending (call : Call)
  | answered (answer : Except fault value)

def CallOutcome.mapError (convert : fault → converted) :
    CallOutcome fault value → CallOutcome converted value
  | .pending call => .pending call
  | .answered answer => .answered (answer.mapError convert)

/-- A stream's end of a channel, with the acts prepared for its next calls. -/
structure Port where
  side : Side
  script : List TransportAct := []
  deriving Repr, Inhabited

namespace Port

def takeAct (port : Port) : Port × TransportAct :=
  match port.script with
  | [] => (port, .ordinary)
  | act :: rest => ({ port with script := rest }, act)

/-- What a call that meets an act of failure is answered, if the act is one. -/
def actFailure? (operation : String) (limit : Duration) : TransportAct → Option TransportError
  | .failure failure => some (.ofIo operation limit failure)
  | .timeout => some (.timeout operation limit)
  | .closed => some (.closed operation)
  | _ => none

/-- A send that takes what the channel takes, or is said to take another count. -/
def transmit (port : Port) (channel : Channel) (payload : Bytes) (claim? : Option Nat) :
    Channel × CallOutcome TransportError Nat :=
  let offered := match claim? with
    | some claim => payload.take claim
    | none => payload
  let sent := channel.send port.side offered
  (sent.1, .answered (sent.2.map fun count => claim?.getD count))

/-- Looks at a send of a payload. -/
def send (port : Port) (channel : Channel) (now : Nat) (limit : Duration) (payload : Bytes)
    (call : Call) : Port × Channel × CallOutcome TransportError Nat :=
  match call with
  | .unmade =>
    let (port, act) := port.takeAct
    match actFailure? "send" limit act, act with
    | some error, _ => (port, channel, .answered (.error error))
    | none, .silence => (port, channel, .pending (.due (now + limit.milliseconds)))
    | none, .accept 0 => (port, channel, .answered (.ok 0))
    | none, .accept (count + 1) => (port, port.transmit channel payload (some (count + 1)))
    | none, _ => (port, port.transmit channel payload none)
  | .due deadline =>
    if deadline ≤ now then (port, channel, .answered (.error (.timeout "send" limit)))
    else (port, channel, .pending (.due deadline))
  | .endless => (port, channel, .pending .endless)

/-- Takes a waiting datagram, or goes on waiting until the time is up. -/
def await (port : Port) (channel : Channel) (now : Nat) (limit : Duration) (size : Nat)
    (deadline : Nat) : Channel × CallOutcome TransportError Bytes :=
  match channel.receive? port.side size with
  | some (channel, datagram) => (channel, .answered (.ok datagram))
  | none =>
    if deadline ≤ now then (channel, .answered (.error (.timeout "receive" limit)))
    else (channel, .pending (.due deadline))

/-- Looks at a receive into a buffer of the given size. A datagram that is there comes before the
time limit. -/
def receive (port : Port) (channel : Channel) (now : Nat) (limit : Duration) (size : Nat)
    (call : Call) : Port × Channel × CallOutcome TransportError Bytes :=
  match call with
  | .unmade =>
    let (port, act) := port.takeAct
    match actFailure? "receive" limit act, act with
    | some error, _ => (port, channel, .answered (.error error))
    | none, .silence => (port, channel, .pending .endless)
    | none, _ => (port, port.await channel now limit size (now + limit.milliseconds))
  | .due deadline => (port, port.await channel now limit size deadline)
  | .endless => (port, channel, .pending .endless)

end Port

end FrameStream
