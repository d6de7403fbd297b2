import FrameStream.Session

namespace FrameStream

theorem Lifecycle.eq_of_active {lifecycle : Lifecycle} (active : lifecycle.state = .active) :
    lifecycle = { name := lifecycle.name, isActivated := true } := by
  obtain ⟨name, isActivated, isAborted⟩ := lifecycle
  cases isAborted <;> cases isActivated <;> first | rfl | cases active

theorem Layer.batchSize_of_le {layer : Layer} (within : requested ≤ layer.maximumBatchSize) :
    ∃ batchSize, layer.batchSize requested = .ok batchSize := by
  unfold Layer.batchSize
  split
  · exact ⟨_, rfl⟩
  · rw [if_neg (UInt16.not_lt.mpr within)]
    exact ⟨_, rfl⟩

theorem Lifecycle.activate_of_stopped {lifecycle : Lifecycle}
    (stopped : lifecycle.state ≠ .active) :
    lifecycle.activate =
      .ok ⟨{ name := lifecycle.name, isActivated := true }, [.activated lifecycle.name]⟩ := by
  rw [activate, if_neg stopped]

/-- An abort that is cleared leaves nothing behind. -/
theorem Lifecycle.signal_clearAbort {lifecycle : Lifecycle} (active : lifecycle.state = .active) :
    ((lifecycle.signal .abort).value.signal .clearAbort).value = lifecycle := by
  rw [eq_of_active active]
  rfl

theorem Lifecycle.signal_stops (lifecycle : Lifecycle) (stops : request ≠ Signal.clearAbort) :
    (lifecycle.signal request).value.state ≠ .active := by
  cases request with
  | abort => simp [signal, abort, state]
  | clearAbort => exact absurd rfl stops
  | deactivate => simp [signal, deactivate, state]

def InputStream.activated (stream : InputStream) (batchSize : UInt16) (resume : Bool) :
    InputStream :=
  let active := { stream with
    lifecycle := { name := stream.lifecycle.name, isActivated := true }, batchSize }
  if resume then active else { active with frameCounter := 0, syncIndex := 0 }

def OutputStream.activated (stream : OutputStream) (batchSize : UInt16) (resume : Bool) :
    OutputStream :=
  let active := { stream with
    lifecycle := { name := stream.lifecycle.name, isActivated := true }, batchSize }
  if resume then active
  else { active with leftover := [], lastIndex := SyncMarker.unobserved, isHunting := false }

theorem InputStream.completeActivation_of_stopped {stream : InputStream}
    (stopped : stream.lifecycle.state ≠ .active) (batchSize : UInt16) (resume : Bool) :
    ∃ events, stream.completeActivation batchSize resume =
      .ok ⟨stream.activated batchSize resume, events⟩ := by
  rw [completeActivation, Lifecycle.activate_of_stopped stopped]
  exact ⟨_, rfl⟩

theorem InputStream.activated_of_complete {stream : InputStream} {batchSize : UInt16}
    (activation : stream.completeActivation batchSize resume = .ok reached) :
    reached.value = stream.activated batchSize resume := by
  have stopped : stream.lifecycle.state ≠ .active := fun active => by
    rw [completeActivation, Lifecycle.activate, if_pos active] at activation
    cases activation
  obtain ⟨events, same⟩ := completeActivation_of_stopped stopped batchSize resume
  rw [same] at activation
  cases activation
  rfl

theorem OutputStream.completeActivation_of_stopped {stream : OutputStream}
    (stopped : stream.lifecycle.state ≠ .active) (batchSize : UInt16) (resume : Bool) :
    ∃ events, stream.completeActivation batchSize resume =
      .ok ⟨stream.activated batchSize resume, events⟩ := by
  rw [completeActivation, Lifecycle.activate_of_stopped stopped]
  exact ⟨_, rfl⟩

theorem OutputStream.activated_of_complete {stream : OutputStream} {batchSize : UInt16}
    (activation : stream.completeActivation batchSize resume = .ok reached) :
    reached.value = stream.activated batchSize resume := by
  have stopped : stream.lifecycle.state ≠ .active := fun active => by
    rw [completeActivation, Lifecycle.activate, if_pos active] at activation
    cases activation
  obtain ⟨events, same⟩ := completeActivation_of_stopped stopped batchSize resume
  rw [same] at activation
  cases activation
  rfl

/-- An active stream that is stopped and resumed is as it was, but for its batch size. -/
theorem InputStream.activated_signal {stream : InputStream}
    (active : stream.lifecycle.state = .active) (request : Lifecycle.Signal) (batchSize : UInt16) :
    (stream.signal request).value.activated batchSize true = { stream with batchSize } := by
  have same := Lifecycle.eq_of_active active
  cases request <;> exact congrArg (fun lifecycle => { stream with lifecycle, batchSize }) same.symm

theorem OutputStream.activated_signal {stream : OutputStream}
    (active : stream.lifecycle.state = .active) (request : Lifecycle.Signal) (batchSize : UInt16) :
    (stream.signal request).value.activated batchSize true = { stream with batchSize } := by
  have same := Lifecycle.eq_of_active active
  cases request <;> exact congrArg (fun lifecycle => { stream with lifecycle, batchSize }) same.symm

theorem InputStream.signal_clearAbort {stream : InputStream}
    (active : stream.lifecycle.state = .active) :
    ((stream.signal .abort).value.signal .clearAbort).value = stream :=
  congrArg (fun lifecycle => { stream with lifecycle }) (Lifecycle.signal_clearAbort active)

theorem OutputStream.signal_clearAbort {stream : OutputStream}
    (active : stream.lifecycle.state = .active) :
    ((stream.signal .abort).value.signal .clearAbort).value = stream :=
  congrArg (fun lifecycle => { stream with lifecycle }) (Lifecycle.signal_clearAbort active)

namespace Session

theorem run_of_finished {session next : Session} {activity : Activity}
    (found : process.look now session activity = (next, .finished result)) (schedule : Schedule) :
    process.run looksLimit now schedule session activity =
      { now, world := next, result := some result } := by
  have some : looksLimit = 999999999 + 1 := rfl
  rw [some, Process.run, found]

variable {session : Session} (ready : session.shared.isReady = true)
include ready

theorem activate_input_of_ready (present : session.input? = some side)
    (stopped : side.stream.lifecycle.state ≠ .active)
    (accepted : side.stream.layer.batchSize requested = .ok batchSize) (now : Nat) (resume : Bool)
    (schedule : Schedule) :
    ∃ events, session.activate now .input requested resume schedule =
      { now
        world := { session with
          input? := some { side with stream := side.stream.activated batchSize resume }
          events }
        result := some (.ok .done) } := by
  obtain ⟨events, activation⟩ :=
    InputStream.completeActivation_of_stopped stopped batchSize resume
  have found (deadline : Nat) (reported : List Event) :
      process.look now { session with input? := some side, events := reported }
          (.input (.activating batchSize resume deadline)) =
        ({ session with
          input? := some { side with stream := side.stream.activated batchSize resume }
          events := reported ++ events }, .finished (.ok .done)) := by
    change storeInput _ (InputSide.lookActivating now session.shared side batchSize resume _) = _
    rw [InputSide.lookActivating, if_pos ready, activation]
    rfl
  unfold activate
  simp only [onInput, present, InputSide.activate, InputStream.beginActivation, if_neg stopped,
    accepted]
  exact ⟨_, run_of_finished (found _ _) schedule⟩

theorem activate_output_of_ready (present : session.output? = some side)
    (stopped : side.stream.lifecycle.state ≠ .active)
    (accepted : side.stream.layer.batchSize requested = .ok batchSize) (now : Nat) (resume : Bool)
    (schedule : Schedule) :
    ∃ events, session.activate now .output requested resume schedule =
      { now
        world := { session with
          output? := some { side with stream := side.stream.activated batchSize resume }
          events }
        result := some (.ok .done) } := by
  obtain ⟨events, activation⟩ :=
    OutputStream.completeActivation_of_stopped stopped batchSize resume
  have found (deadline : Nat) (reported : List Event) :
      process.look now { session with output? := some side, events := reported }
          (.output (.activating batchSize resume deadline)) =
        ({ session with
          output? := some { side with stream := side.stream.activated batchSize resume }
          events := reported ++ events }, .finished (.ok .done)) := by
    change storeOutput _ (OutputSide.lookActivating now session.shared side batchSize resume _) = _
    rw [OutputSide.lookActivating, if_pos ready, activation]
    rfl
  unfold activate
  simp only [onOutput, present, OutputSide.activate, OutputStream.beginActivation, if_neg stopped,
    accepted]
  exact ⟨_, run_of_finished (found _ _) schedule⟩

end Session

end FrameStream
