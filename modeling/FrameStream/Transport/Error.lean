import FrameStream.Duration

namespace FrameStream

inductive IoKind where
  | timedOut
  | wouldBlock
  | connectionRefused
  | connectionReset
  | permissionDenied
  | interrupted
  | writeZero
  | other
  deriving DecidableEq, Repr, Inhabited

/-- The text of a failure about which nothing but its kind is known. -/
def IoKind.text : IoKind → String
  | .timedOut => "timed out"
  | .wouldBlock => "operation would block"
  | .connectionRefused => "connection refused"
  | .connectionReset => "connection reset"
  | .permissionDenied => "permission denied"
  | .interrupted => "operation interrupted"
  | .writeZero => "write zero"
  | .other => "other error"

/-- A failure of the operating system. -/
structure IoFailure where
  kind : IoKind
  text : String
  deriving DecidableEq, Repr, Inhabited

def IoFailure.ofKind (kind : IoKind) : IoFailure := ⟨kind, kind.text⟩

inductive TransportError where
  | timeout (operation : String) (limit : Duration)
  | io (operation : String) (failure : IoFailure)
  | closed (operation : String)
  deriving DecidableEq, Repr, Inhabited

namespace TransportError

/-- A system failure met by an operation with a time limit. A failure that says that the time is
up, or that the operation would have to wait, counts as a timeout. -/
def ofIo (operation : String) (limit : Duration) (failure : IoFailure) : TransportError :=
  match failure.kind with
  | .timedOut | .wouldBlock => .timeout operation limit
  | _ => .io operation failure

def title : TransportError → String
  | .timeout .. => "Timeout"
  | .io .. => "Io"
  | .closed _ => "Closed"

def isTimeout : TransportError → Bool
  | .timeout .. => true
  | _ => false

def message : TransportError → String
  | .timeout operation limit => s!"datagram {operation} timed out after {limit.text}"
  | .io operation failure => s!"datagram {operation} failed: {failure.text}"
  | .closed operation => s!"datagram channel closed during {operation}"

def cause? : TransportError → Option String
  | .io _ failure => some failure.text
  | _ => none

end TransportError

end FrameStream
