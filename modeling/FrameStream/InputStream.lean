import FrameStream.Configuration
import FrameStream.Lifecycle
import FrameStream.Pacing.LimiterKind
import FrameStream.Progress

/-!
Input streams: frames from the host to the device.

A frame is written as a list of payloads. Before a payload is sent the limiter is asked for its
length; a payload that the transport takes only in part is offered again from where it was cut. A
write is a machine that stands at a `WritePoint` and goes on when the answer it waits for is
there, so that everything it depends on (limiter, clock, transport, other tasks) is an input.
-/

namespace FrameStream

structure InputStream where
  layer : Layer
  configuration : InputConfiguration
  lifecycle : Lifecycle
  timeout : Duration
  batchSize : UInt16
  frameCounter : UInt64 := 0
  syncIndex : UInt32 := 0

namespace InputConfiguration

/-- Fills the last payload of a frame up with zeros, if the configuration asks for it. -/
def padded (configuration : InputConfiguration) (payload : Bytes) : Bytes :=
  if configuration.padsFrames then
    payload ++ List.replicate (configuration.maximumPayload - payload.length) 0
  else payload

/-- The payloads from the one at hand on, when `rest` is what it leaves of the frame. -/
def payloadsFrom (configuration : InputConfiguration) (payload rest : Bytes) : List Bytes :=
  match rest with
  | [] => [configuration.padded payload]
  | next :: more =>
    payload :: configuration.payloadsFrom ((next :: more).take configuration.maximumPayload)
      ((next :: more).drop configuration.maximumPayload)
termination_by rest.length
decreasing_by
  have := configuration.payload_pos
  simp
  omega

/-- The payloads of a frame. A marker takes its room from the first of them. -/
def payloads (configuration : InputConfiguration) (marker? : Option SyncMarker) (frame : Bytes) :
    List Bytes :=
  if frame.isEmpty then []
  else
    let header := (marker?.map fun marker => marker.encode configuration.markerSize).getD []
    let room := configuration.maximumPayload - header.length
    configuration.payloadsFrom (header ++ frame.take room) (frame.drop room)

end InputConfiguration

inductive WritePoint where
  /-- The limiter is to be asked for a payload; `later` are the payloads after it. -/
  | asking (payload : Bytes) (later : List Bytes)
  /-- The limiter asked to wait before the payload is asked for again. -/
  | resting (wait : Duration) (payload : Bytes) (later : List Bytes)
  /-- The payload may be sent, and its first `sent` bytes were. -/
  | sending (payload : Bytes) (sent : Nat) (later : List Bytes)
  deriving Repr

namespace InputStream

abbrev WriteStep := Logged (InputStream × Progress WritePoint (Except StreamError Unit))

/-- Assembles a stream, inactive, over a path with the given datagram limit. -/
def create (layer : Layer) (configuration : InputConfiguration) (pathLimit : Nat)
    (limiter : LimiterKind) : Except StreamError (Logged InputStream) := do
  if layer.direction ≠ .hostToDevice then
    throw (.invalidConfiguration ("input stream requires a host-to-device layer, `" ++
      layer.name ++ "` is " ++ layer.direction.title))
  configuration.checkPath pathLimit
  return {
    value := {
      layer
      configuration
      lifecycle := { name := layer.name }
      timeout := defaultTimeout
      batchSize := layer.maximumBatchSize }
    events := [.inputConfigured layer.name layer.frameSize configuration.maximumPayload
      configuration.packetsPerFrame configuration.syncEnabled configuration.framesPerSync.toNat
      configuration.padsFrames limiter.text] }

/-- The marker of the next frame. Every `framesPerSync`th frame has one, counted from zero. -/
def nextMarker? (stream : InputStream) : Option SyncMarker :=
  if stream.configuration.syncEnabled &&
      stream.frameCounter % stream.configuration.framesPerSync.toUInt64 == 0 then
    some ⟨stream.syncIndex⟩
  else none

def fail (stream : InputStream) (error : StreamError) : WriteStep :=
  ⟨(stream, .finished (.error error)), []⟩

/-- Goes on to the next payload. A frame counts when all its payloads were sent. -/
def proceed (stream : InputStream) : List Bytes → WriteStep
  | [] =>
    ⟨({ stream with frameCounter := stream.frameCounter + 1 }, .finished (.ok ())), []⟩
  | payload :: later => ⟨(stream, .waiting (.asking payload later)), []⟩

/-- Starts to write a frame. The marker's index is used up from here on. -/
def beginWrite (stream : InputStream) (frame : Bytes) : WriteStep :=
  if frame.length ≠ stream.layer.frameSize then
    stream.fail (.invalidFrameSize stream.layer.frameSize frame.length)
  else
    match stream.lifecycle.ensureActive with
    | .error error => stream.fail error
    | .ok _ =>
      match stream.nextMarker? with
      | none => stream.proceed (stream.configuration.payloads none frame)
      | some marker =>
        let stream := { stream with syncIndex := SyncMarker.successor stream.syncIndex }
        let step := stream.proceed (stream.configuration.payloads (some marker) frame)
        if frame.isEmpty then step
        else
          { step with
            events := .markerAttached stream.layer.name marker.index.toNat :: step.events }

/-- Offers what is left of a payload, or goes on if nothing is. -/
def offer (stream : InputStream) (payload : Bytes) (sent : Nat) (later : List Bytes) :
    WriteStep :=
  if sent < payload.length then ⟨(stream, .waiting (.sending payload sent later)), []⟩
  else
    let step := stream.proceed later
    { step with events := .payloadSent stream.layer.name payload.length :: step.events }

def granted (stream : InputStream) (payload : Bytes) (later : List Bytes)
    (answer : Except RateError Duration) : WriteStep :=
  match answer with
  | .error error => stream.fail (.rateLimit error)
  | .ok wait =>
    if wait.isZero then stream.offer payload 0 later
    else
      ⟨(stream, .waiting (.resting wait payload later)),
        [.throttled stream.layer.name payload.length wait]⟩

/-- Goes on after a wait that the limiter asked for, unless it was interrupted. -/
def rested (stream : InputStream) (payload : Bytes) (later : List Bytes)
    (outcome : Except StreamError Unit) : WriteStep :=
  match outcome with
  | .error error => stream.fail error
  | .ok _ => ⟨(stream, .waiting (.asking payload later)), []⟩

/-- Goes on with the number of bytes that the transport says it took. None is a failure; more than
were offered count as those offered. -/
def delivered (stream : InputStream) (payload : Bytes) (sent : Nat) (later : List Bytes)
    (outcome : Except StreamError Nat) : WriteStep :=
  match outcome with
  | .error error => stream.fail error
  | .ok 0 => stream.fail (.transport (.io "send" (.ofKind .writeZero)))
  | .ok accepted =>
    let remaining := payload.length - sent
    let step := stream.offer payload (sent + min accepted remaining) later
    if accepted < remaining then
      { step with
        events :=
          .partialSend stream.layer.name accepted (remaining - accepted) :: step.events }
    else step

/-- The checks of an activation; what is left is to wait for the device. -/
def beginActivation (stream : InputStream) (requested : UInt16) : Except StreamError UInt16 :=
  if stream.lifecycle.state = .active then .error .alreadyActivated
  else stream.layer.batchSize requested

/-- Activates the stream once the device is ready. Without `resume` counting starts anew. -/
def completeActivation (stream : InputStream) (batchSize : UInt16) (resume : Bool) :
    Except StreamError (Logged InputStream) := do
  let activated ← stream.lifecycle.activate
  let stream := { stream with lifecycle := activated.value, batchSize }
  return {
    value := if resume then stream else { stream with frameCounter := 0, syncIndex := 0 }
    events := activated.events ++
      [.inputActivation stream.layer.name batchSize.toNat resume] }

/-- An input stream holds nothing back, so there is nothing to flush. -/
def flush (stream : InputStream) : Logged InputStream := ⟨stream, [.flushed stream.layer.name]⟩

def signal (stream : InputStream) (signal : Lifecycle.Signal) : Logged InputStream :=
  let signalled := stream.lifecycle.signal signal
  ⟨{ stream with lifecycle := signalled.value }, signalled.events⟩

def debugText (stream : InputStream) (limiter : LimiterKind) : String :=
  Text.record "EthInputStream"
    [("layer", Text.quoted stream.layer.name), ("state", stream.lifecycle.state.title),
      ("configuration", stream.configuration.debugText), ("rate_limiter", limiter.title),
      ("frame_counter", toString stream.frameCounter.toNat),
      ("sync_index", toString stream.syncIndex.toNat)] true

end InputStream

end FrameStream
