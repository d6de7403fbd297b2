import FrameStream.Configuration.Parameters
import FrameStream.Layer
import FrameStream.Settings.Field
import FrameStream.Toml.Document
import FrameStream.Toml.Writer

namespace FrameStream

/-- The document that a text is, for whoever reads settings. -/
private def document (text : String) : Except SettingError Toml.Table :=
  match Toml.Table.ofText? text with
  | some table => .ok table
  | none => .error .unreadable

namespace InputParameters

def preferences : Codec LimiterPreference :=
  .choice [.auto, .tokenBucket, .trafficControl] LimiterPreference.keyword

def fields : List (Field InputParameters) :=
  [.ofCodec "host_address" .address (·.hostAddress) fun value base =>
      { base with hostAddress := value },
    .ofCodec "device_port" .count16 (·.devicePort) fun value base =>
      { base with devicePort := value },
    .ofCodec "is_sync_enabled" .flag (·.syncEnabled) fun value base =>
      { base with syncEnabled := value },
    .ofCodec "frames_per_sync" .count32 (·.framesPerSync) fun value base =>
      { base with framesPerSync := value },
    .ofCodec "sync_size" .count16 (·.markerSize) fun value base =>
      { base with markerSize := value },
    .ofCodec "max_payload_size" .count16 (·.maximumPayload) fun value base =>
      { base with maximumPayload := value },
    .ofCodec "use_dataflow_padding" .flag (·.padsFrames) fun value base =>
      { base with padsFrames := value },
    .ofCodec "buffers_threshold" .count32 (·.buffersThreshold) fun value base =>
      { base with buffersThreshold := value },
    .ofCodec "rate_limit_bytes_per_sec" .count32 (·.bytesPerSecond) fun value base =>
      { base with bytesPerSecond := value },
    .ofCodec "rate_limiter" preferences (·.preference) fun value base =>
      { base with preference := value },
    .ofCodec "timeout_ms" .count64 (·.timeoutMilliseconds) fun value base =>
      { base with timeoutMilliseconds := value }]

def ofTable (table : Toml.Table) : Except SettingError InputParameters :=
  Field.readAll fields true table {}

def ofText (text : String) : Except SettingError InputParameters := do ofTable (← document text)

def toTable (parameters : InputParameters) : Toml.Table := Field.writeAll fields parameters

end InputParameters

namespace OutputParameters

def fields : List (Field OutputParameters) :=
  [.ofCodec "host_address" .address (·.hostAddress) fun value base =>
      { base with hostAddress := value },
    .ofCodec "device_port" .count16 (·.devicePort) fun value base =>
      { base with devicePort := value },
    .ofCodec "is_sync_enabled" .flag (·.syncEnabled) fun value base =>
      { base with syncEnabled := value },
    .ofCodec "sync_size" .count16 (·.markerSize) fun value base =>
      { base with markerSize := value },
    .ofCodec "max_payload_size" .count16 (·.maximumPayload) fun value base =>
      { base with maximumPayload := value },
    .ofCodec "buffers_threshold" .count32 (·.buffersThreshold) fun value base =>
      { base with buffersThreshold := value },
    .ofCodec "timeout_ms" .count64 (·.timeoutMilliseconds) fun value base =>
      { base with timeoutMilliseconds := value }]

def ofTable (table : Toml.Table) : Except SettingError OutputParameters :=
  Field.readAll fields true table {}

def ofText (text : String) : Except SettingError OutputParameters := do ofTable (← document text)

def toTable (parameters : OutputParameters) : Toml.Table := Field.writeAll fields parameters

end OutputParameters

namespace Layer

private def directions : Codec Direction :=
  .choice [.hostToDevice, .deviceToHost] Direction.keyword

private def fields : List (Field Layer) :=
  [.ofCodec "name" .text (·.name) fun value base => { base with name := value },
    .ofCodec "direction" directions (·.direction) fun value base =>
      { base with direction := value },
    .ofCodec "frame_size" .size (·.frameSize) fun value base => { base with frameSize := value },
    .ofCodec "max_batch_size" .count16 (·.maximumBatchSize) fun value base =>
      { base with maximumBatchSize := value }]

private def missing? (table : Toml.Table) : Option String :=
  (fields.map (·.name)).find? fun name => (table.find? name).isNone

def ofTable (table : Toml.Table) : Except SettingError Layer := do
  let layer ← Field.readAll fields false table default
  match missing? table with
  | some name => .error (.missingField name)
  | none => return layer

def ofText (text : String) : Except SettingError Layer := do ofTable (← document text)

def toTable (layer : Layer) : Toml.Table := Field.writeAll fields layer

end Layer

end FrameStream
