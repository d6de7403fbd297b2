import FrameStream.InputStream
import FrameStream.Pacing.Limiter
import FrameStream.Session.Shared

namespace FrameStream

structure InputSide (quantity : Type) where
  stream : InputStream
  limiter : Limiter quantity
  port : Port

/-- An operation of an input stream that takes time, and where it stands. -/
inductive InputActivity where
  | activating (batchSize : UInt16) (resume : Bool) (deadline : Nat)
  | writing (point : WritePoint) (call : Call)
  deriving Repr

namespace InputSide

variable {quantity : Type}

abbrev InputLook := Look InputActivity (Except StreamError Unit)

/-- A side and what it shares after a look, with what the look found. -/
abbrev Looked (quantity : Type) := Logged (Shared × InputSide quantity × InputLook)

def finish (shared : Shared) (input : InputSide quantity) (result : Except StreamError Unit) :
    Looked quantity :=
  ⟨(shared, input, .finished result), []⟩

def follow (shared : Shared) (input : InputSide quantity) (step : InputStream.WriteStep) :
    Looked quantity :=
  let (stream, progress) := step.value
  let found : InputLook :=
    match progress with
    | .finished result => .finished result
    | .waiting point => .ready (.writing point .unmade)
  ⟨(shared, { input with stream }, found), step.events⟩

/-- Waits for the device, or gives up when the time is up. -/
def lookActivating (now : Nat) (shared : Shared) (input : InputSide quantity)
    (batchSize : UInt16) (resume : Bool) (deadline : Nat) : Looked quantity :=
  if shared.isReady then
    match input.stream.completeActivation batchSize resume with
    | .error error => finish shared input (.error error)
    | .ok activated =>
      ⟨(shared, { input with stream := activated.value }, .finished (.ok ())), activated.events⟩
  else if deadline ≤ now then
    finish shared input (.error (activationTimeout input.stream.timeout))
  else ⟨(shared, input, .blocked (.activating batchSize resume deadline) (some deadline)), []⟩

def lookResting (now : Nat) (shared : Shared) (input : InputSide quantity) (wait : Duration)
    (payload : Bytes) (later : List Bytes) (call : Call) : Looked quantity :=
  match input.stream.lifecycle.ensureActive with
  | .error error => follow shared input (input.stream.rested payload later (.error error))
  | .ok _ =>
    let point := WritePoint.resting wait payload later
    match call with
    | .due deadline =>
      if deadline ≤ now then follow shared input (input.stream.rested payload later (.ok ()))
      else ⟨(shared, input, .blocked (.writing point call) (some deadline)), []⟩
    | _ =>
      let deadline := now + wait.milliseconds
      ⟨(shared, input, .blocked (.writing point (.due deadline)) (some deadline)), []⟩

def lookSending (now : Nat) (shared : Shared) (input : InputSide quantity) (payload : Bytes)
    (sent : Nat) (later : List Bytes) (call : Call) : Looked quantity :=
  match input.stream.lifecycle.ensureActive with
  | .error error =>
    follow shared input (input.stream.delivered payload sent later (.error error))
  | .ok _ =>
    let (port, channel, outcome) :=
      input.port.send shared.channel now input.stream.timeout (payload.drop sent) call
    let shared := { shared with channel }
    let input := { input with port }
    match outcome.mapError StreamError.ofTransport with
    | .answered answer => follow shared input (input.stream.delivered payload sent later answer)
    | .pending call =>
      ⟨(shared, input, .blocked (.writing (.sending payload sent later) call) call.wakeUp), []⟩

def look [TokenQuantity quantity] (now : Nat) (shared : Shared) (input : InputSide quantity) :
    InputActivity → Looked quantity
  | .activating batchSize resume deadline =>
    lookActivating now shared input batchSize resume deadline
  | .writing (.asking payload later) _ =>
    let (limiter, answer) := input.limiter.reserve (instantOf now) payload.length
    follow shared { input with limiter } (input.stream.granted payload later answer)
  | .writing (.resting wait payload later) call =>
    lookResting now shared input wait payload later call
  | .writing (.sending payload sent later) call =>
    lookSending now shared input payload sent later call

def activate (now : Nat) (shared : Shared) (input : InputSide quantity) (requested : UInt16)
    (resume : Bool) : Looked quantity :=
  match input.stream.beginActivation requested with
  | .error error => finish shared input (.error error)
  | .ok batchSize =>
    let deadline := now + input.stream.timeout.milliseconds
    ⟨(shared, input, .ready (.activating batchSize resume deadline)), []⟩

def write (shared : Shared) (input : InputSide quantity) (frame : Bytes) : Looked quantity :=
  follow shared input (input.stream.beginWrite frame)

def signal (input : InputSide quantity) (signal : Lifecycle.Signal) : Logged (InputSide quantity) :=
  let signalled := input.stream.signal signal
  ⟨{ input with stream := signalled.value }, signalled.events⟩

end InputSide

end FrameStream
