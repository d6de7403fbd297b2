import FrameStream.Configuration.Parameters

namespace FrameStream

inductive Level where
  | trace
  | debug
  | info
  | warn
  deriving DecidableEq, Repr, Inhabited

def Level.text : Level → String
  | .trace => "trace"
  | .debug => "debug"
  | .info => "info"
  | .warn => "warn"

inductive FieldValue where
  | text (value : String)
  | number (value : Nat)
  | flag (value : Bool)
  deriving DecidableEq, Repr, Inhabited

inductive Event where
  | inputConfigured (stream : String) (frameSize maximumPayload packetsPerFrame : Nat)
      (syncEnabled : Bool) (framesPerSync : Nat) (padsFrames : Bool) (limiter : String)
  | outputConfigured (stream : String) (frameSize maximumPayload : Nat) (syncEnabled : Bool)
      (markerSize : Nat)
  | inputActivation (stream : String) (batchSize : Nat) (resume : Bool)
  | outputActivation (stream : String) (batchSize : Nat) (resume : Bool)
  | activated (stream : String)
  | deactivated (stream : String)
  | aborted (stream : String)
  | abortCleared (stream state : String)
  | markerAttached (stream : String) (index : Nat)
  | throttled (stream : String) (payload : Nat) (wait : Duration)
  | partialSend (stream : String) (accepted remaining : Nat)
  | payloadSent (stream : String) (payload : Nat)
  | flushed (stream : String)
  | leftoverDropped (stream : String) (discarded : Nat)
  | payloadDiscarded (stream : String) (payload : Nat)
  | resynchronized (stream : String) (index discardedPayloads : Nat)
  | payloadReceived (stream : String) (payload placed : Nat)
  | indexGap (stream : String) (expected observed : Nat)
  | frameDiscarded (stream : String) (discarded : Nat) (hunting : Bool)
  | limiterSelected (preference : LimiterPreference) (kind : String) (bytesPerSecond port : Nat)
  | limiterInstalled (rule : String)
  | limiterRemoved (rule : String)
  | limiterRemovalFailed (rule error : String)
  | ruleInstalled (interface : String) (port bytesPerSecond : Nat)
  | ruleRemoved (rule : String)
  | ruleAbsent (rule : String)
  | classRollbackFailed (interface : String) (port : Nat) (error : String)
  | rootRollbackFailed (interface error : String)
  | teardownStepFailed (rule error : String)
  deriving DecidableEq, Repr, Inhabited

namespace Event

def level : Event → Level
  | markerAttached .. | throttled .. | partialSend .. | payloadSent .. | flushed ..
  | leftoverDropped .. | payloadDiscarded .. | payloadReceived .. => .trace
  | inputConfigured .. | outputConfigured .. | inputActivation .. | outputActivation ..
  | limiterSelected .. | ruleAbsent .. => .debug
  | activated .. | deactivated .. | aborted .. | abortCleared .. | resynchronized ..
  | limiterInstalled .. | limiterRemoved .. | ruleInstalled .. | ruleRemoved .. => .info
  | indexGap .. | frameDiscarded .. | limiterRemovalFailed .. | classRollbackFailed ..
  | rootRollbackFailed .. | teardownStepFailed .. => .warn

def message : Event → String
  | inputConfigured .. => "input stream configured"
  | outputConfigured .. => "output stream configured"
  | inputActivation .. => "input stream activation parameters"
  | outputActivation .. => "output stream activation parameters"
  | activated .. => "stream activated"
  | deactivated .. => "stream deactivated"
  | aborted .. => "stream aborted"
  | abortCleared .. => "stream abort cleared"
  | markerAttached .. => "sync marker attached"
  | throttled .. => "throttled"
  | partialSend .. => "partial send, retrying remainder"
  | payloadSent .. => "payload sent"
  | flushed .. => "flush"
  | leftoverDropped .. => "dropping leftover while hunting for sync"
  | payloadDiscarded .. => "discarding payload while hunting for sync"
  | resynchronized .. => "resynchronized on sync marker"
  | payloadReceived .. => "payload received"
  | indexGap .. => "sync index gap, payloads were lost"
  | frameDiscarded .. => "receive timed out mid-frame, discarding partial frame"
  | limiterSelected .. => "rate limiter selected"
  | limiterInstalled .. => "traffic shaping rule installed"
  | limiterRemoved .. => "traffic shaping rule removed"
  | limiterRemovalFailed .. => "failed to remove traffic shaping rule"
  | ruleInstalled .. => "traffic control rate limit installed"
  | ruleRemoved .. => "traffic control rate limit removed"
  | ruleAbsent .. => "traffic control rule already removed"
  | classRollbackFailed .. => "failed to roll back tc class"
  | rootRollbackFailed .. => "failed to roll back tc root qdisc"
  | teardownStepFailed .. => "traffic control teardown step failed"

def fields : Event → List (String × FieldValue)
  | inputConfigured stream frameSize maximumPayload packets sync cadence padding limiter =>
    [("stream", .text stream), ("frame_size", .number frameSize),
      ("max_payload_size", .number maximumPayload), ("packets_per_frame", .number packets),
      ("sync", .flag sync), ("frames_per_sync", .number cadence), ("padding", .flag padding),
      ("limiter", .text limiter)]
  | outputConfigured stream frameSize maximumPayload sync markerSize =>
    [("stream", .text stream), ("frame_size", .number frameSize),
      ("max_payload_size", .number maximumPayload), ("sync", .flag sync),
      ("sync_size", .number markerSize)]
  | inputActivation stream batchSize resume | outputActivation stream batchSize resume =>
    [("stream", .text stream), ("batch_size", .number batchSize),
      ("resume_pending_transfers", .flag resume)]
  | activated stream | deactivated stream | aborted stream | flushed stream =>
    [("stream", .text stream)]
  | abortCleared stream state => [("stream", .text stream), ("state", .text state)]
  | markerAttached stream index => [("stream", .text stream), ("sync_index", .number index)]
  | throttled stream payload wait =>
    [("stream", .text stream), ("payload_len", .number payload), ("wait", .text wait.text)]
  | partialSend stream accepted remaining =>
    [("stream", .text stream), ("accepted", .number accepted), ("remaining", .number remaining)]
  | payloadSent stream payload | payloadDiscarded stream payload =>
    [("stream", .text stream), ("payload_len", .number payload)]
  | leftoverDropped stream discarded =>
    [("stream", .text stream), ("discarded", .number discarded)]
  | resynchronized stream index discarded =>
    [("stream", .text stream), ("sync_index", .number index),
      ("discarded_payloads", .number discarded)]
  | payloadReceived stream payload placed =>
    [("stream", .text stream), ("payload_len", .number payload), ("placed", .number placed)]
  | indexGap stream expected observed =>
    [("stream", .text stream), ("expected", .number expected), ("observed", .number observed)]
  | frameDiscarded stream discarded hunting =>
    [("stream", .text stream), ("discarded", .number discarded), ("hunting", .flag hunting)]
  | limiterSelected preference kind bytesPerSecond port =>
    [("preference", .text preference.title), ("kind", .text kind),
      ("bytes_per_sec", .number bytesPerSecond), ("remote_port", .number port)]
  | limiterInstalled rule | limiterRemoved rule => [("rule", .text rule)]
  | limiterRemovalFailed rule error => [("rule", .text rule), ("error", .text error)]
  | ruleInstalled interface port bytesPerSecond =>
    [("interface", .text interface), ("port", .number port),
      ("bytes_per_sec", .number bytesPerSecond)]
  | ruleRemoved rule | ruleAbsent rule => [("handle", .text rule)]
  | classRollbackFailed interface port error =>
    [("interface", .text interface), ("port", .number port), ("error", .text error)]
  | rootRollbackFailed interface error =>
    [("interface", .text interface), ("error", .text error)]
  | teardownStepFailed rule error => [("handle", .text rule), ("error", .text error)]

end Event

/-- A result with the events that led to it, in order. -/
structure Logged (α : Type) where
  value : α
  events : List Event := []
  deriving Repr

end FrameStream
