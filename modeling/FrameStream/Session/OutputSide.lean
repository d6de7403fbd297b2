import FrameStream.OutputStream
import FrameStream.Session.Shared

namespace FrameStream

structure OutputSide where
  stream : OutputStream
  port : Port

inductive Reply where
  | done
  | frame (bytes : Bytes)
  | index (marker : UInt32)
  deriving DecidableEq, Repr, Inhabited

/-- An operation of an output stream that takes time, and where it stands. -/
inductive OutputActivity where
  | activating (batchSize : UInt16) (resume : Bool) (deadline : Nat)
  | reading (point : ReadPoint) (call : Call)
  | aligning (call : Call)
  deriving Repr

namespace OutputSide

abbrev OutputLook := Look OutputActivity (Except StreamError Reply)

abbrev Looked := Logged (Shared × OutputSide × OutputLook)

def finish (shared : Shared) (output : OutputSide) (result : Except StreamError Reply) :
    Looked :=
  ⟨(shared, output, .finished result), []⟩

def follow (shared : Shared) (output : OutputSide) (step : OutputStream.ReadStep) :
    Looked :=
  let (stream, progress) := step.value
  let found : OutputLook :=
    match progress with
    | .finished result => .finished (result.map .frame)
    | .waiting point => .ready (.reading point .unmade)
  ⟨(shared, { output with stream }, found), step.events⟩

def lookActivating (now : Nat) (shared : Shared) (output : OutputSide)
    (batchSize : UInt16) (resume : Bool) (deadline : Nat) : Looked :=
  if shared.isReady then
    match output.stream.completeActivation batchSize resume with
    | .error error => finish shared output (.error error)
    | .ok activated =>
      ⟨(shared, { output with stream := activated.value }, .finished (.ok .done)),
        activated.events⟩
  else if deadline ≤ now then
    finish shared output (.error (activationTimeout output.stream.timeout))
  else ⟨(shared, output, .blocked (.activating batchSize resume deadline) (some deadline)), []⟩

/-- Looks at a receive into the stream's buffer, which holds one payload. -/
def receive (now : Nat) (shared : Shared) (output : OutputSide) (call : Call) :
    Shared × OutputSide × CallOutcome StreamError Bytes :=
  match output.stream.lifecycle.ensureActive with
  | .error error => (shared, output, .answered (.error error))
  | .ok _ =>
    let (port, channel, outcome) := output.port.receive shared.channel now output.stream.timeout
      output.stream.configuration.maximumPayload call
    ({ shared with channel }, { output with port }, outcome.mapError .ofTransport)

def lookReading (now : Nat) (shared : Shared) (output : OutputSide) (point : ReadPoint)
    (call : Call) : Looked :=
  let (shared, output, outcome) := receive now shared output call
  match outcome with
  | .answered answer => follow shared output (output.stream.received point answer)
  | .pending call => ⟨(shared, output, .blocked (.reading point call) call.wakeUp), []⟩

def lookAligning (now : Nat) (shared : Shared) (output : OutputSide) (call : Call) :
    Looked :=
  let (shared, output, outcome) := receive now shared output call
  match outcome with
  | .answered (.error error) => finish shared output (.error error)
  | .answered (.ok payload) =>
    let aligned := output.stream.align payload
    let (stream, index?) := aligned.value
    let found : OutputLook :=
      match index? with
      | some index => .finished (.ok (.index index))
      | none => .ready (.aligning .unmade)
    ⟨(shared, { output with stream }, found), aligned.events⟩
  | .pending call => ⟨(shared, output, .blocked (.aligning call) call.wakeUp), []⟩

def look (now : Nat) (shared : Shared) (output : OutputSide) : OutputActivity → Looked
  | .activating batchSize resume deadline =>
    lookActivating now shared output batchSize resume deadline
  | .reading point call => lookReading now shared output point call
  | .aligning call => lookAligning now shared output call

def activate (now : Nat) (shared : Shared) (output : OutputSide) (requested : UInt16)
    (resume : Bool) : Looked :=
  match output.stream.beginActivation requested with
  | .error error => finish shared output (.error error)
  | .ok batchSize =>
    let deadline := now + output.stream.timeout.milliseconds
    ⟨(shared, output, .ready (.activating batchSize resume deadline)), []⟩

def read (shared : Shared) (output : OutputSide) (size : Nat) : Looked :=
  follow shared output (output.stream.beginRead size)

def align (shared : Shared) (output : OutputSide) : Looked :=
  match output.stream.beginAlignment with
  | .error error => finish shared output (.error error)
  | .ok started =>
    ⟨(shared, { output with stream := started.value }, .ready (.aligning .unmade)),
      started.events⟩

def signal (output : OutputSide) (signal : Lifecycle.Signal) : Logged OutputSide :=
  let signalled := output.stream.signal signal
  ⟨{ output with stream := signalled.value }, signalled.events⟩

end OutputSide

end FrameStream
