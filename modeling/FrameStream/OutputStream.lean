import FrameStream.Configuration
import FrameStream.Lifecycle
import FrameStream.Progress

/-!
Output streams: frames from the device to the host.

A frame is assembled from the payloads received. Where sync is enabled a payload that starts a
frame may open with a marker; anywhere else the same bytes are data. After a timeout in the middle
of a frame the stream hunts: it discards payloads until one opens with a marker, and the data
after that marker is the start of the next frame. A read is a machine that stands at a `ReadPoint`
and goes on with the outcome of each receive.
-/

namespace FrameStream

/-- Running counts of what a stream lost and how it recovered. -/
structure OutputStatistics where
  gaps : Nat := 0
  resyncs : Nat := 0
  discardedPayloads : Nat := 0
  discardedFrames : Nat := 0
  deriving DecidableEq, Repr, Inhabited

structure OutputStream where
  layer : Layer
  configuration : OutputConfiguration
  lifecycle : Lifecycle
  timeout : Duration
  batchSize : UInt16
  /-- Bytes received beyond the end of the last frame. -/
  leftover : Bytes := []
  lastIndex : UInt32 := SyncMarker.unobserved
  isHunting : Bool := false
  statistics : OutputStatistics := {}

/-- Where an unfinished read stands. -/
inductive ReadPoint where
  /-- Still looking for the marker that opens the frame. -/
  | hunting
  /-- The frame has `filled` so far; once it has started, no payload is looked at for a marker. -/
  | assembling (filled : Bytes) (started : Bool)
  deriving Repr

namespace OutputStream

abbrev ReadStep := Logged (OutputStream × Progress ReadPoint (Except StreamError Bytes))

/-- Assembles a stream, inactive, over a path with the given datagram limit. -/
def create (layer : Layer) (configuration : OutputConfiguration) (pathLimit : Nat) :
    Except StreamError (Logged OutputStream) := do
  if layer.direction ≠ .deviceToHost then
    throw (.invalidConfiguration ("output stream requires a device-to-host layer, `" ++
      layer.name ++ "` is " ++ layer.direction.title))
  configuration.checkPath pathLimit
  return {
    value := {
      layer
      configuration
      lifecycle := { name := layer.name }
      timeout := defaultTimeout
      batchSize := layer.maximumBatchSize }
    events := [.outputConfigured layer.name layer.frameSize configuration.maximumPayload
      configuration.syncEnabled configuration.markerSize] }

def fail (stream : OutputStream) (error : StreamError) : ReadStep :=
  ⟨(stream, .finished (.error error)), []⟩

def syncDisabled (stream : OutputStream) : StreamError :=
  .invalidConfiguration ("stream `" ++ stream.layer.name ++
    "` has sync disabled, there is no marker to align to")

/-- Starts to look for a marker. What is left of the last payload goes. -/
def beginAlignment (stream : OutputStream) : Except StreamError (Logged OutputStream) :=
  if stream.configuration.syncEnabled then
    match stream.lifecycle.ensureActive with
    | .error error => .error error
    | .ok _ =>
      .ok {
        value := { stream with leftover := [] }
        events :=
          if stream.leftover.isEmpty then []
          else [.leftoverDropped stream.layer.name stream.leftover.length] }
  else .error stream.syncDisabled

/-- Looks for a marker at the start of a payload. With one the stream is aligned, and the data
after the marker is left over for the next frame; without one the payload is discarded. -/
def align (stream : OutputStream) (payload : Bytes) : Logged (OutputStream × Option UInt32) :=
  match SyncMarker.decode? payload stream.configuration.markerSize with
  | none =>
    let discarded := stream.statistics.discardedPayloads + 1
    { value := ({ stream with statistics.discardedPayloads := discarded }, none)
      events := [.payloadDiscarded stream.layer.name payload.length] }
  | some marker =>
    let aligned := { stream with
      lastIndex := marker.index
      isHunting := false
      statistics.resyncs := stream.statistics.resyncs + 1
      leftover := stream.leftover ++ payload.drop stream.configuration.markerSize }
    { value := (aligned, some marker.index)
      events := [.resynchronized stream.layer.name marker.index.toNat
        stream.statistics.discardedPayloads] }

/-- A frame with enough bytes is done; one with fewer waits for a payload. -/
def settle (stream : OutputStream) (filled : Bytes) (started : Bool) : ReadStep :=
  if filled.length < stream.layer.frameSize then
    ⟨(stream, .waiting (.assembling filled started)), []⟩
  else ⟨(stream, .finished (.ok filled)), []⟩

/-- Starts a frame with what is left over. A marker that was just aligned to has started it. -/
def beginFrame (stream : OutputStream) (aligned : Bool) : ReadStep :=
  let filled := stream.leftover.take stream.layer.frameSize
  let rest := stream.leftover.drop stream.layer.frameSize
  { stream with leftover := rest }.settle filled (aligned || !filled.isEmpty)

/-- Starts to read a frame into a buffer of the given size. -/
def beginRead (stream : OutputStream) (size : Nat) : ReadStep :=
  if size ≠ stream.layer.frameSize then
    stream.fail (.invalidFrameSize stream.layer.frameSize size)
  else
    match stream.lifecycle.ensureActive with
    | .error error => stream.fail error
    | .ok _ =>
      if stream.isHunting then
        match stream.beginAlignment with
        | .error error => stream.fail error
        | .ok started => ⟨(started.value, .waiting .hunting), started.events⟩
      else stream.beginFrame false

/-- Compares the index of a marker with the one expected. A gap is counted and does no more. -/
def observe (stream : OutputStream) (index : UInt32) : Logged OutputStream :=
  let expected := SyncMarker.successor stream.lastIndex
  let observed := { stream with lastIndex := index }
  if index = expected then ⟨observed, []⟩
  else
    { value := { observed with statistics.gaps := stream.statistics.gaps + 1 }
      events := [.indexGap stream.layer.name expected.toNat index.toNat] }

/-- Adds the data of a payload to a frame; what the frame has no room for is left over. -/
def place (stream : OutputStream) (filled data : Bytes) (payload : Nat) : ReadStep :=
  let room := stream.layer.frameSize - filled.length
  let step := { stream with leftover := stream.leftover ++ data.drop room }.settle
    (filled ++ data.take room) true
  { step with
    events := .payloadReceived stream.layer.name payload (data.take room).length :: step.events }

/-- Adds a payload to a frame. Only before the frame has started can it open with a marker. -/
def receivePayload (stream : OutputStream) (filled : Bytes) (started : Bool) (payload : Bytes) :
    ReadStep :=
  let marker? :=
    if stream.configuration.syncEnabled && !started then
      SyncMarker.decode? payload stream.configuration.markerSize
    else none
  match marker? with
  | none => stream.place filled payload payload.length
  | some marker =>
    let observed := stream.observe marker.index
    let step := observed.value.place filled (payload.drop stream.configuration.markerSize)
      payload.length
    { step with events := observed.events ++ step.events }

/-- Gives up a frame after a failed receive. A timeout after some of its data loses the frame, and
where there are markers the stream hunts for the next one. -/
def loseFrame (stream : OutputStream) (error : StreamError) (filled : Bytes) :
    Logged OutputStream :=
  if error.isTimeout && !filled.isEmpty then
    let hunting := stream.isHunting || stream.configuration.syncEnabled
    { value := { stream with
        isHunting := hunting
        statistics.discardedFrames := stream.statistics.discardedFrames + 1 }
      events := [.frameDiscarded stream.layer.name filled.length hunting] }
  else ⟨stream, []⟩

/-- Goes on with the outcome of a receive. -/
def received (stream : OutputStream) (point : ReadPoint) (outcome : Except StreamError Bytes) :
    ReadStep :=
  match point, outcome with
  | .hunting, .error error => stream.fail error
  | .hunting, .ok payload =>
    let aligned := stream.align payload
    let (stream, index?) := aligned.value
    let step : ReadStep :=
      if index?.isSome then stream.beginFrame true else ⟨(stream, .waiting .hunting), []⟩
    { step with events := aligned.events ++ step.events }
  | .assembling filled _, .error error =>
    let lost := stream.loseFrame error filled
    ⟨(lost.value, .finished (.error error)), lost.events⟩
  | .assembling filled started, .ok payload => stream.receivePayload filled started payload

def beginActivation (stream : OutputStream) (requested : UInt16) : Except StreamError UInt16 :=
  if stream.lifecycle.state = .active then .error .alreadyActivated
  else stream.layer.batchSize requested

/-- Activates the stream once the device is ready. Without `resume` nothing of the past remains
but the counts. -/
def completeActivation (stream : OutputStream) (batchSize : UInt16) (resume : Bool) :
    Except StreamError (Logged OutputStream) := do
  let activated ← stream.lifecycle.activate
  let stream := { stream with lifecycle := activated.value, batchSize }
  return {
    value :=
      if resume then stream
      else { stream with leftover := [], lastIndex := SyncMarker.unobserved, isHunting := false }
    events := activated.events ++
      [.outputActivation stream.layer.name batchSize.toNat resume] }

def signal (stream : OutputStream) (signal : Lifecycle.Signal) : Logged OutputStream :=
  let signalled := stream.lifecycle.signal signal
  ⟨{ stream with lifecycle := signalled.value }, signalled.events⟩

def debugText (stream : OutputStream) : String :=
  let statistics := Text.record "OutputStreamStats"
    [("sync_gaps", toString stream.statistics.gaps),
      ("resyncs", toString stream.statistics.resyncs),
      ("discarded_payloads", toString stream.statistics.discardedPayloads),
      ("discarded_frames", toString stream.statistics.discardedFrames),
      ("leftover_size", toString stream.leftover.length)] false
  Text.record "EthOutputStream"
    [("layer", Text.quoted stream.layer.name), ("state", stream.lifecycle.state.title),
      ("configuration", stream.configuration.debugText),
      ("last_seen_sync_index", toString stream.lastIndex.toNat),
      ("encountered_timeout", Text.flag stream.isHunting), ("stats", statistics)] true

end OutputStream

end FrameStream
