import FrameStream.Session.InputSide
import FrameStream.Session.OutputSide

/-!
Sessions: an input stream, an output stream or both over one channel, while other tasks interfere.

Each stream has one owner, who starts one operation after another; other tasks act through handles
whenever the operation at hand is blocked. Everything that depends on time is an operation from
`now` on, with a schedule of what others do, and tells when it ended.
-/

namespace FrameStream

structure Session where
  shared : Shared
  shaper : Shaper
  registry : Registry := {}
  input? : Option (InputSide Float) := none
  output? : Option OutputSide := none
  /-- What was reported since the events were last taken. -/
  events : List Event := []

/-- One of the two streams of a session. -/
inductive Role where
  | input
  | output
  deriving DecidableEq, Repr, Inhabited

inductive Happening where
  | signal (role : Role) (signal : Lifecycle.Signal)
  /-- A datagram arrives at the output stream's end. -/
  | arrival (datagram : Bytes)
  /-- The device's graph is activated, or is so no more. -/
  | readiness (isReady : Bool)
  deriving Repr

/-- Happenings with the times at which they take place, in order. -/
abbrev Schedule := List (Nat × Happening)

namespace Session

/-- The stream that is meant where none is named. -/
def mainRole (session : Session) : Role := if session.input?.isSome then .input else .output

def report (session : Session) (events : List Event) : Session :=
  { session with events := session.events ++ events }

def takeEvents (session : Session) : Session × List Event :=
  ({ session with events := [] }, session.events)

def signal (session : Session) (role : Role) (signal : Lifecycle.Signal) : Session :=
  match role, session.input?, session.output? with
  | .input, some input, _ =>
    let signalled := input.signal signal
    { session with input? := some signalled.value }.report signalled.events
  | .output, _, some output =>
    let signalled := output.signal signal
    { session with output? := some signalled.value }.report signalled.events
  | _, _, _ => session

def inject (session : Session) (datagram : Bytes) : Session :=
  match session.output? with
  | none => session
  | some output =>
    { session with shared.channel := session.shared.channel.inject output.port.side datagram }

def setReady (session : Session) (isReady : Bool) : Session :=
  { session with shared.isReady := isReady }

def occur (session : Session) : Happening → Session
  | .signal role signal => session.signal role signal
  | .arrival datagram => session.inject datagram
  | .readiness isReady => session.setReady isReady

inductive Activity where
  | input (activity : InputActivity)
  | output (activity : OutputActivity)
  deriving Repr

abbrev Looked := Session × Look Activity (Except StreamError Reply)

def storeInput (session : Session) (looked : InputSide.Looked Float) : Looked :=
  let (shared, input, found) := looked.value
  ({ session with shared, input? := some input }.report looked.events,
    found.map .input (·.map fun _ => .done))

def storeOutput (session : Session) (looked : OutputSide.Looked) : Looked :=
  let (shared, output, found) := looked.value
  ({ session with shared, output? := some output }.report looked.events, found.map .output id)

def withoutStream (session : Session) : Looked :=
  (session, .finished (.error .notActivated))

def onInput (session : Session) (operation : InputSide Float → InputSide.Looked Float) :
    Looked :=
  match session.input? with
  | none => session.withoutStream
  | some input => session.storeInput (operation input)

def onOutput (session : Session) (operation : OutputSide → OutputSide.Looked) : Looked :=
  match session.output? with
  | none => session.withoutStream
  | some output => session.storeOutput (operation output)

def look (now : Nat) (session : Session) : Activity → Looked
  | .input activity => session.onInput fun input => input.look now session.shared activity
  | .output activity => session.onOutput fun output => output.look now session.shared activity

/-- The operations of a session as processes in time. -/
def process : Process Session Activity Happening (Except StreamError Reply) where
  look := look
  occur := occur

/-- Far more looks than any operation takes. -/
def looksLimit : Nat := 1000000000

abbrev Run := Outcome Session (Except StreamError Reply)

/-- Follows an operation from its start to its end. -/
def follow (now : Nat) (schedule : Schedule) (started : Looked) : Run :=
  match started with
  | (session, .finished result) => { now, world := session, result := some result }
  | (session, .ready activity) | (session, .blocked activity _) =>
    process.run looksLimit now schedule session activity

def activate (session : Session) (now : Nat) (role : Role) (requested : UInt16) (resume : Bool)
    (schedule : Schedule) : Run :=
  follow now schedule <|
    match role with
    | .input =>
      session.onInput fun input => input.activate now session.shared requested resume
    | .output =>
      session.onOutput fun output => output.activate now session.shared requested resume

def write (session : Session) (now : Nat) (frame : Bytes) (schedule : Schedule) : Run :=
  follow now schedule (session.onInput fun input => input.write session.shared frame)

/-- Reads a frame; without a size the buffer has the size of a frame. -/
def read (session : Session) (now : Nat) (size? : Option Nat) (schedule : Schedule) : Run :=
  follow now schedule (session.onOutput fun output =>
    output.read session.shared (size?.getD output.stream.layer.frameSize))

def align (session : Session) (now : Nat) (schedule : Schedule) : Run :=
  follow now schedule (session.onOutput fun output => output.align session.shared)

def flush (session : Session) : Session :=
  match session.input? with
  | none => session
  | some input =>
    let flushed := input.stream.flush
    { session with input? := some { input with stream := flushed.value } }.report flushed.events

def setTimeout (session : Session) (role : Role) (timeout : Duration) : Session :=
  match role with
  | .input =>
    { session with input? := session.input?.map fun input =>
        { input with stream := { input.stream with timeout } } }
  | .output =>
    { session with output? := session.output?.map fun output =>
        { output with stream := { output.stream with timeout } } }

def setScript (session : Session) (role : Role) (script : List TransportAct) : Session :=
  match role with
  | .input =>
    { session with input? := session.input?.map fun input =>
        { input with port := { input.port with script } } }
  | .output =>
    { session with output? := session.output?.map fun output =>
        { output with port := { output.port with script } } }

/-- Limits what the first stream's end takes in a single send. -/
def setChunkLimit (session : Session) (limit : Nat) : Session :=
  { session with shared.channel := session.shared.channel.setChunkLimit .host limit }

def closePeer (session : Session) : Session :=
  { session with shared.channel := session.shared.channel.close .device }

/-- What the input stream's end has sent since this was last asked. -/
def takeSent (session : Session) : Session × List Bytes :=
  let (channel, sent) := session.shared.channel.takeSent .host
  ({ session with shared := { session.shared with channel } }, sent)

def state? (session : Session) : Role → Option ActivationState
  | .input => session.input?.map (·.stream.lifecycle.state)
  | .output => session.output?.map (·.stream.lifecycle.state)

/-- Drops the input stream, and with it its limiter. Gives the commands that this ran. -/
def dropInput (session : Session) : Session × List ShapingCommand :=
  match session.input? with
  | none => (session, [])
  | some input =>
    let dropped := input.limiter.drop session.shaper session.registry
    ({ session with registry := dropped.registry, input? := none }.report dropped.events,
      dropped.commands)

end Session

end FrameStream
