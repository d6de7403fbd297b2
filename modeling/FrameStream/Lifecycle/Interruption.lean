import FrameStream.Lifecycle
import FrameStream.Timeline

/-!
Waits that a stream's handles can interrupt, and waits for the device.

An interruptible operation is looked at only while the stream is active: whoever looks finds the
stream's state before anything the operation may have come to. So nothing is lost that happens
together with an abort.
-/

namespace FrameStream

/-- An operation that ends by itself at some moment, or never. -/
structure TimedOperation (value : Type) where
  endsAt : Option Nat
  result : Except StreamError value

inductive LifecycleChange where
  | signal (signal : Lifecycle.Signal)
  | activation
  deriving DecidableEq, Repr, Inhabited

namespace Lifecycle

/-- Makes a change. An activation that is refused changes nothing. -/
def change (lifecycle : Lifecycle) : LifecycleChange → Logged Lifecycle
  | .signal signal => lifecycle.signal signal
  | .activation =>
    match lifecycle.activate with
    | .ok activated => activated
    | .error _ => ⟨lifecycle, []⟩

abbrev Record := Logged Lifecycle

def lookAt (now : Nat) (record : Record) (operation : TimedOperation value) :
    Record × Look (TimedOperation value) (Except StreamError value) :=
  match record.value.ensureActive with
  | .error error => (record, .finished (.error error))
  | .ok _ =>
    if operation.endsAt.any (· ≤ now) then (record, .finished operation.result)
    else (record, .blocked operation operation.endsAt)

/-- An operation that ends early when the stream stops being active. -/
def interruptible : Process Record (TimedOperation value) LifecycleChange
    (Except StreamError value) where
  look := lookAt
  occur record change :=
    let changed := record.value.change change
    ⟨changed.value, record.events ++ changed.events⟩

end Lifecycle

/-- The wait for the device's graph to be activated, up to a deadline. -/
structure ReadinessWait where
  limit : Duration
  deadline : Nat
  deriving Repr, Inhabited

namespace ReadinessWait

def start (now : Nat) (limit : Duration) : ReadinessWait := ⟨limit, now + limit.milliseconds⟩

def lookAt (now : Nat) (isReady : Bool) (wait : ReadinessWait) :
    Bool × Look ReadinessWait (Except StreamError Unit) :=
  if isReady then (isReady, .finished (.ok ()))
  else if wait.deadline ≤ now then (isReady, .finished (.error (activationTimeout wait.limit)))
  else (isReady, .blocked wait (some wait.deadline))

def process : Process Bool ReadinessWait Bool (Except StreamError Unit) where
  look := lookAt
  occur _ isReady := isReady

end ReadinessWait

end FrameStream
