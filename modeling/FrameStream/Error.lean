import FrameStream.Pacing.Error
import FrameStream.Shaping.Error

namespace FrameStream

/-- What a caller distinguishes: retry, give up, or mend the call. -/
inductive ErrorKind where
  | timeout
  | aborted
  | transportFailure
  | invalidConfiguration
  | notSupported
  | invalidState
  | invalidArgument
  deriving DecidableEq, Repr, Inhabited

def ErrorKind.code : ErrorKind → String
  | .timeout => "ethlink.stream.timeout"
  | .aborted => "ethlink.stream.aborted"
  | .transportFailure => "ethlink.stream.transport_failed"
  | .invalidConfiguration => "ethlink.stream.invalid_configuration"
  | .notSupported => "ethlink.stream.not_supported"
  | .invalidState => "ethlink.stream.invalid_state"
  | .invalidArgument => "ethlink.stream.invalid_argument"

def ErrorKind.title : ErrorKind → String
  | .timeout => "Timeout"
  | .aborted => "Aborted"
  | .transportFailure => "TransportFailure"
  | .invalidConfiguration => "InvalidConfiguration"
  | .notSupported => "NotSupported"
  | .invalidState => "InvalidState"
  | .invalidArgument => "InvalidArgument"

inductive StreamError where
  | timeout (operation : String) (limit : Duration)
  | aborted
  | notActivated
  | alreadyActivated
  | transport (error : TransportError)
  | invalidConfiguration (reason : String)
  | invalidFrameSize (expected actual : Nat)
  | notSupported (reason : String)
  | rateLimit (error : RateError)
  | shaping (error : ShapingError)
  deriving DecidableEq, Repr, Inhabited

namespace StreamError

def title : StreamError → String
  | .timeout .. => "Timeout"
  | .aborted => "Aborted"
  | .notActivated => "NotActivated"
  | .alreadyActivated => "AlreadyActivated"
  | .transport _ => "Transport"
  | .invalidConfiguration _ => "InvalidConfiguration"
  | .invalidFrameSize .. => "InvalidFrameSize"
  | .notSupported _ => "NotSupported"
  | .rateLimit _ => "RateLimit"
  | .shaping _ => "Shaping"

def kind : StreamError → ErrorKind
  | .timeout .. => .timeout
  | .aborted => .aborted
  | .notActivated | .alreadyActivated => .invalidState
  | .transport _ => .transportFailure
  | .invalidConfiguration _ | .rateLimit _ => .invalidConfiguration
  | .invalidFrameSize .. => .invalidArgument
  | .notSupported _ | .shaping (.notSupported _) => .notSupported
  | .shaping _ => .invalidConfiguration

def code (error : StreamError) : String := error.kind.code

def isTimeout (error : StreamError) : Bool := error.kind = .timeout

def message : StreamError → String
  | .timeout operation limit => s!"{operation} timed out after {limit.text}"
  | .aborted => "stream aborted"
  | .notActivated => "stream is not activated"
  | .alreadyActivated => "stream is already activated"
  | .transport error => s!"transport failure: {error.message}"
  | .invalidConfiguration reason => s!"invalid configuration: {reason}"
  | .invalidFrameSize expected actual =>
    s!"frame buffer must be exactly {expected} bytes, got {actual}"
  | .notSupported reason => s!"not supported: {reason}"
  | .rateLimit error => error.message
  | .shaping error => s!"traffic shaping failed: {error.message}"

/-- The text of the error that this one wraps. A limiter's error is passed on as it is. -/
def cause? : StreamError → Option String
  | .transport error => some error.message
  | .shaping error => some error.message
  | _ => none

/-- The error of a stream whose transport failed: a timeout of the transport is one of the
stream. -/
def ofTransport : TransportError → StreamError
  | .timeout operation limit => .timeout operation limit
  | error => .transport error

/-- The error of a stream whose rule could not be installed: what the host does not support the
stream does not support. -/
def ofShaping : ShapingError → StreamError
  | .notSupported reason => .notSupported reason
  | error => .shaping error

end StreamError

end FrameStream
