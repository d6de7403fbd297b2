import FrameStream.Error
import FrameStream.Event
import FrameStream.Layer

/-!
The lifecycle of a stream.

Activation and abortion are independent facts, so that clearing an abort restores the state before
it. A stream works only while it is active; whoever waits looks at the lifecycle first each time
it is woken.
-/

namespace FrameStream

inductive ActivationState where
  | inactive
  | active
  | aborted
  deriving DecidableEq, Repr, Inhabited

def ActivationState.title : ActivationState → String
  | .inactive => "Inactive"
  | .active => "Active"
  | .aborted => "Aborted"

/-- The error of an operation that finds the stream in a state other than active. -/
def ActivationState.interruption : ActivationState → StreamError
  | .aborted => .aborted
  | _ => .notActivated

theorem ActivationState.interruption_cases (state : ActivationState) :
    state.interruption = .notActivated ∨ state.interruption = .aborted := by
  cases state with
  | inactive | active => exact .inl rfl
  | aborted => exact .inr rfl

/-- A stream's phase; the stream's name is for its events. -/
structure Lifecycle where
  name : String
  isActivated : Bool := false
  isAborted : Bool := false
  deriving DecidableEq, Repr, Inhabited

namespace Lifecycle

/-- An abort hides whether the stream was activated. -/
def state (lifecycle : Lifecycle) : ActivationState :=
  if lifecycle.isAborted then .aborted else if lifecycle.isActivated then .active else .inactive

def ensureActive (lifecycle : Lifecycle) : Except StreamError Unit :=
  match lifecycle.state with
  | .active => .ok ()
  | other => .error other.interruption

/-- Becomes active from any other state; an abort is thereby cleared. -/
def activate (lifecycle : Lifecycle) : Except StreamError (Logged Lifecycle) :=
  if lifecycle.state = .active then .error .alreadyActivated
  else
    .ok ⟨{ lifecycle with isActivated := true, isAborted := false }, [.activated lifecycle.name]⟩

/-- Becomes inactive and forgets an abort. -/
def deactivate (lifecycle : Lifecycle) : Logged Lifecycle :=
  { value := { lifecycle with isActivated := false, isAborted := false }
    events :=
      if lifecycle.isActivated || lifecycle.isAborted then [.deactivated lifecycle.name] else [] }

def abort (lifecycle : Lifecycle) : Logged Lifecycle :=
  { value := { lifecycle with isAborted := true }
    events := if lifecycle.isAborted then [] else [.aborted lifecycle.name] }

def clearAbort (lifecycle : Lifecycle) : Logged Lifecycle :=
  let cleared := { lifecycle with isAborted := false }
  { value := cleared
    events :=
      if lifecycle.isAborted then [.abortCleared lifecycle.name cleared.state.title] else [] }

/-- What another task can do to a stream through its handle. -/
inductive Signal where
  | abort
  | clearAbort
  | deactivate
  deriving DecidableEq, Repr, Inhabited

def signal (lifecycle : Lifecycle) : Signal → Logged Lifecycle
  | .abort => lifecycle.abort
  | .clearAbort => lifecycle.clearAbort
  | .deactivate => lifecycle.deactivate

@[simp]
theorem ensureActive_eq_ok (lifecycle : Lifecycle) :
    lifecycle.ensureActive = .ok () ↔ lifecycle.state = .active := by
  unfold ensureActive
  split <;> simp_all

theorem ensureActive_eq_error {lifecycle : Lifecycle} (stopped : lifecycle.state ≠ .active) :
    lifecycle.ensureActive = .error lifecycle.state.interruption := by
  unfold ensureActive
  split
  · exact absurd ‹_› stopped
  · rfl

end Lifecycle

/-- The batch size of an activation: zero asks for the largest that the layer allows. -/
def Layer.batchSize (layer : Layer) (requested : UInt16) : Except StreamError UInt16 :=
  if requested = 0 then .ok layer.maximumBatchSize
  else if layer.maximumBatchSize < requested then
    .error (.invalidConfiguration ("dynamic batch size " ++ toString requested.toNat ++
      " exceeds the maximum of " ++ toString layer.maximumBatchSize.toNat ++ " for layer `" ++
      layer.name ++ "`"))
  else .ok requested

/-- The error of a wait for the device's graph to be activated that took too long. -/
def activationTimeout (limit : Duration) : StreamError :=
  .timeout "wait for core op activation" limit

end FrameStream
