import FrameStream.Configuration.Parameters
import FrameStream.Error
import FrameStream.Layer

/-!
Checked configurations. A configuration is made once, from parameters and a layer, and carries the
proof of what was checked; nothing changes it afterwards.
-/

namespace FrameStream

/-- How the bytes of a frame are laid out over payloads, alike on both sides of a stream. A marker
leaves room for at least one byte of its frame. -/
structure Framing where
  maximumPayload : Nat
  syncEnabled : Bool
  markerSize : Nat
  payload_pos : 0 < maximumPayload
  payload_le : maximumPayload ≤ maximumDatagramPayload
  marker_min : syncEnabled = true → SyncMarker.minimumSize ≤ markerSize
  marker_lt : syncEnabled = true → markerSize < maximumPayload
  deriving DecidableEq

structure InputConfiguration extends Framing where
  padsFrames : Bool
  framesPerSync : UInt32
  /-- The payloads of a frame without a marker. -/
  packetsPerFrame : Nat
  buffersThreshold : UInt32
  cadence_pos : syncEnabled = true → framesPerSync ≠ 0
  deriving DecidableEq

structure OutputConfiguration extends Framing where
  buffersThreshold : UInt32
  deriving DecidableEq

/-- The answer to a request that no configuration can meet. -/
def refused (reason : String) : Except StreamError value :=
  .error (.invalidConfiguration reason)

/-- A stream needs a layer of its own direction with frames that are not empty. -/
def Layer.check (layer : Layer) (direction : Direction) : Except StreamError Unit :=
  if layer.direction ≠ direction then
    refused ("layer `" ++ layer.name ++ "` is " ++ layer.direction.title ++ ", expected " ++
      direction.title)
  else if layer.frameSize = 0 then refused ("layer `" ++ layer.name ++ "` has an empty frame")
  else .ok ()

/-- Payloads of the given size. Without sync the size of a marker does not matter. -/
def Framing.check (maximumPayload : Nat) (syncEnabled cadence : Bool) (markerSize : Nat) :
    Except StreamError { framing : Framing // framing.syncEnabled = true → cadence = true } :=
  if payload : 0 < maximumPayload ∧ maximumPayload ≤ maximumDatagramPayload then
    if disabled : syncEnabled = false then
      .ok ⟨⟨maximumPayload, syncEnabled, markerSize, payload.1, payload.2,
        by simp [disabled], by simp [disabled]⟩, by simp [disabled]⟩
    else if positive : cadence = true then
      if marker : SyncMarker.minimumSize ≤ markerSize ∧ markerSize < maximumPayload then
        .ok ⟨⟨maximumPayload, syncEnabled, markerSize, payload.1, payload.2,
          fun _ => marker.1, fun _ => marker.2⟩, fun _ => positive⟩
      else
        refused (s!"sync_size {markerSize} must be at least {SyncMarker.minimumSize} " ++
          s!"and below max_payload_size {maximumPayload}")
    else refused "frames_per_sync must be at least 1 when sync is enabled"
  else
    refused s!"max_payload_size {maximumPayload} must be within 1..={maximumDatagramPayload}"

namespace InputConfiguration

/-- Checks the layer, then the payload size, then what sync needs. -/
def ofParameters (parameters : InputParameters) (layer : Layer) :
    Except StreamError InputConfiguration := do
  layer.check .hostToDevice
  let framing ← Framing.check parameters.maximumPayload.toNat parameters.syncEnabled
    (parameters.framesPerSync != 0) parameters.markerSize.toNat
  return {
    toFraming := framing.1
    padsFrames := parameters.padsFrames
    framesPerSync := parameters.framesPerSync
    packetsPerFrame :=
      (layer.frameSize + framing.1.maximumPayload - 1) / framing.1.maximumPayload
    buffersThreshold := parameters.buffersThreshold
    cadence_pos := fun enabled => by simpa using framing.2 enabled }

def debugText (configuration : InputConfiguration) : String :=
  Text.record "InputStreamConfiguration"
    [("max_payload_size", toString configuration.maximumPayload),
      ("use_dataflow_padding", Text.flag configuration.padsFrames),
      ("is_sync_enabled", Text.flag configuration.syncEnabled),
      ("frames_per_sync", toString configuration.framesPerSync.toNat),
      ("sync_size", toString configuration.markerSize),
      ("packets_per_frame", toString configuration.packetsPerFrame),
      ("buffers_threshold", toString configuration.buffersThreshold.toNat)] false

end InputConfiguration

namespace OutputConfiguration

def ofParameters (parameters : OutputParameters) (layer : Layer) :
    Except StreamError OutputConfiguration := do
  layer.check .deviceToHost
  let framing ← Framing.check parameters.maximumPayload.toNat parameters.syncEnabled true
    parameters.markerSize.toNat
  return { toFraming := framing.1, buffersThreshold := parameters.buffersThreshold }

def debugText (configuration : OutputConfiguration) : String :=
  Text.record "OutputStreamConfiguration"
    [("max_payload_size", toString configuration.maximumPayload),
      ("is_sync_enabled", Text.flag configuration.syncEnabled),
      ("sync_size", toString configuration.markerSize),
      ("buffers_threshold", toString configuration.buffersThreshold.toNat)] false

end OutputConfiguration

/-- A configured payload has to fit into the datagrams of the path. -/
def Framing.checkPath (framing : Framing) (pathLimit : Nat) : Except StreamError Unit :=
  if pathLimit < framing.maximumPayload then
    refused (s!"max_payload_size {framing.maximumPayload} exceeds the transport datagram " ++
      s!"limit {pathLimit}")
  else .ok ()

end FrameStream
