import FrameStream.Proofs.Attempts
import FrameStream.Proofs.Conduct
import FrameStream.Proofs.Interleaving
import FrameStream.Proofs.Operations
import FrameStream.Proofs.WireImage

/-!
Interruptions. A stream looks at its lifecycle before it sends, receives or rests, so once it is not
active the operation at hand ends at the next look, before anything moves: what was waiting for the
stream still waits, and what arrived meanwhile waits behind it.
-/

namespace FrameStream

namespace InputStream

variable (stream : InputStream) (payload : Bytes) (later : List Bytes)

@[simp]
theorem proceed_lifecycle : (stream.proceed later).value.1.lifecycle = stream.lifecycle := by
  cases later <;> rfl

@[simp]
theorem offer_lifecycle (taken : Nat) :
    (stream.offer payload taken later).value.1.lifecycle = stream.lifecycle := by
  unfold offer
  split
  · rfl
  · exact stream.proceed_lifecycle later

@[simp]
theorem granted_lifecycle (answer : Except RateError Duration) :
    (stream.granted payload later answer).value.1.lifecycle = stream.lifecycle := by
  unfold granted
  split
  · rfl
  · split
    · exact stream.offer_lifecycle payload later 0
    · rfl

@[simp]
theorem rested_lifecycle (outcome : Except StreamError Unit) :
    (stream.rested payload later outcome).value.1.lifecycle = stream.lifecycle := by
  cases outcome <;> rfl

@[simp]
theorem delivered_lifecycle (taken : Nat) (outcome : Except StreamError Nat) :
    (stream.delivered payload taken later outcome).value.1.lifecycle = stream.lifecycle := by
  unfold delivered
  split
  · rfl
  · rfl
  · dsimp only
    split <;> exact stream.offer_lifecycle ..

theorem beginWrite_starts (frame : Bytes) :
    (∃ error, (stream.beginWrite frame).value = (stream, .finished (.error error))) ∨
      stream.lifecycle.state = .active ∧
        (stream.beginWrite frame).value.1.lifecycle = stream.lifecycle := by
  rcases stream.beginWrite_cases frame with failed | ⟨exact, active⟩
  · exact .inl failed
  · refine .inr ⟨active, ?_⟩
    rw [beginWrite_drawn active exact, proceed_lifecycle, drawn]
    split <;> rfl

end InputStream

theorem OutputStream.received_interruption (stream : OutputStream) (point : ReadPoint)
    (state : ActivationState) :
    stream.received point (.error state.interruption) = stream.fail state.interruption := by
  have quick : state.interruption.isTimeout = false := by cases state <;> rfl
  cases point with
  | hunting => rfl
  | assembling filled started =>
    simp only [received, loseFrame, quick, Bool.false_and, Bool.false_eq_true, if_false]
    rfl

namespace InputSide

variable {quantity : Type} [TokenQuantity quantity] (now : Nat) (shared : Shared)
  (input : InputSide quantity)

theorem look_resting_stopped (stopped : input.stream.lifecycle.state ≠ .active) (wait : Duration)
    (payload : Bytes) (later : List Bytes) (call : Call) :
    input.look now shared (.writing (.resting wait payload later) call) =
      finish shared input (.error input.stream.lifecycle.state.interruption) := by
  rw [look, lookResting, Lifecycle.ensureActive_eq_error stopped]
  rfl

theorem look_sending_stopped (stopped : input.stream.lifecycle.state ≠ .active) (payload : Bytes)
    (taken : Nat) (later : List Bytes) (call : Call) :
    input.look now shared (.writing (.sending payload taken later) call) =
      finish shared input (.error input.stream.lifecycle.state.interruption) := by
  rw [look, lookSending, Lifecycle.ensureActive_eq_error stopped]
  rfl

end InputSide

namespace OutputSide

variable (now : Nat) (shared : Shared) (output : OutputSide)

theorem look_reading_stopped (stopped : output.stream.lifecycle.state ≠ .active)
    (point : ReadPoint) (call : Call) :
    output.look now shared (.reading point call) =
      finish shared output (.error output.stream.lifecycle.state.interruption) := by
  rw [look, lookReading, receive, Lifecycle.ensureActive_eq_error stopped]
  simp only [OutputStream.received_interruption]
  rfl

theorem look_aligning_stopped (stopped : output.stream.lifecycle.state ≠ .active) (call : Call) :
    output.look now shared (.aligning call) =
      finish shared output (.error output.stream.lifecycle.state.interruption) := by
  rw [look, lookAligning, receive, Lifecycle.ensureActive_eq_error stopped]

end OutputSide

/-- What a stream can be found to wait for in the middle of a write, a read or an alignment. -/
inductive Waits : Role → Session.Activity → Prop where
  | resting : Waits .input (.input (.writing (.resting wait payload later) call))
  | sending : Waits .input (.input (.writing (.sending payload taken later) call))
  | reading : Waits .output (.output (.reading point call))
  | aligning : Waits .output (.output (.aligning call))

inductive Continues : Role → Session.Activity → Prop where
  | writing : Continues .input (.input (.writing point call))
  | reading : Continues .output (.output (.reading point call))
  | aligning : Continues .output (.output (.aligning call))

theorem Waits.continues (waits : Waits role activity) : Continues role activity := by
  cases waits with
  | resting | sending => exact .writing
  | reading => exact .reading
  | aligning => exact .aligning

/-- Where a write, a read or an alignment may be found: it goes on by itself only in a stream that
is active. -/
inductive Found (role : Role) : Session.Looked → Prop where
  | finished : Found role (session, .finished result)
  | ready : session.state? role = some .active → Continues role activity →
      Found role (session, .ready activity)
  | blocked : session.lifecycle? role = some lifecycle → Waits role activity →
      Found role (session, .blocked activity wakeUp)

namespace Session

section Looks

variable {session : Session} {role : Role} {activity : Activity}

theorem storeInput_finish {side : InputSide Float} (present : session.input? = some side)
    (error : StreamError) :
    session.storeInput (InputSide.finish session.shared side (.error error)) =
      (session, .finished (.error error)) := by
  obtain ⟨shared, shaper, registry, input?, output?, events⟩ := session
  cases present
  exact Prod.ext (congrArg (Session.mk _ _ _ _ _) (List.append_nil _)) rfl

theorem storeOutput_finish {side : OutputSide} (present : session.output? = some side)
    (error : StreamError) :
    session.storeOutput (OutputSide.finish session.shared side (.error error)) =
      (session, .finished (.error error)) := by
  obtain ⟨shared, shaper, registry, input?, output?, events⟩ := session
  cases present
  exact Prod.ext (congrArg (Session.mk _ _ _ _ _) (List.append_nil _)) rfl

/-- What waits in a stream that is not active ends at the next look, and nothing changes. -/
theorem look_stopped (now : Nat) (waits : Waits role activity)
    (reached : session.state? role = some state) (stopped : state ≠ .active) :
    process.look now session activity = (session, .finished (.error state.interruption)) := by
  cases waits with
  | resting =>
    obtain ⟨side, present, rfl⟩ := Option.map_eq_some_iff.mp reached
    change session.onInput _ = _
    rw [onInput, present]
    rw [← session.storeInput_finish present, ← side.look_resting_stopped now _ stopped]
  | sending =>
    obtain ⟨side, present, rfl⟩ := Option.map_eq_some_iff.mp reached
    change session.onInput _ = _
    rw [onInput, present]
    rw [← session.storeInput_finish present, ← side.look_sending_stopped now _ stopped]
  | reading =>
    obtain ⟨side, present, rfl⟩ := Option.map_eq_some_iff.mp reached
    change session.onOutput _ = _
    rw [onOutput, present]
    rw [← session.storeOutput_finish present, ← side.look_reading_stopped now _ stopped]
  | aligning =>
    obtain ⟨side, present, rfl⟩ := Option.map_eq_some_iff.mp reached
    change session.onOutput _ = _
    rw [onOutput, present]
    rw [← session.storeOutput_finish present, ← side.look_aligning_stopped now _ stopped]

theorem follow_found_input (session : Session) (shared : Shared) (side : InputSide Float)
    (active : ∀ point, step.value.2 = .waiting point → step.value.1.lifecycle.state = .active) :
    Found .input (session.storeInput (InputSide.follow shared side step)) := by
  obtain ⟨⟨stream, progress⟩, events⟩ := step
  cases progress with
  | waiting point => exact .ready (congrArg some (active point rfl)) .writing
  | finished result => exact .finished

theorem follow_found_output (session : Session) (shared : Shared) (side : OutputSide)
    (active : ∀ point, step.value.2 = .waiting point → step.value.1.lifecycle.state = .active) :
    Found .output (session.storeOutput (OutputSide.follow shared side step)) := by
  obtain ⟨⟨stream, progress⟩, events⟩ := step
  cases progress with
  | waiting point => exact .ready (congrArg some (active point rfl)) .reading
  | finished result => exact .finished

theorem look_writing_found (now : Nat) (session : Session) (shared : Shared)
    (side : InputSide Float) (active : side.stream.lifecycle.state = .active) (point : WritePoint)
    (call : Call) :
    Found .input (session.storeInput (side.look now shared (.writing point call))) := by
  cases point with
  | asking payload later => exact session.follow_found_input _ _ fun _ _ => by simpa using active
  | resting wait payload later =>
    rw [InputSide.look, InputSide.lookResting]
    split
    · exact session.follow_found_input _ _ fun _ _ => by simpa using active
    · split
      · split
        · exact session.follow_found_input _ _ fun _ _ => by simpa using active
        · exact .blocked rfl .resting
      · exact .blocked rfl .resting
  | sending payload taken later =>
    rw [InputSide.look, InputSide.lookSending]
    split
    · exact session.follow_found_input _ _ fun _ _ => by simpa using active
    · dsimp only
      split
      · exact session.follow_found_input _ _ fun _ _ => by simpa using active
      · exact .blocked rfl .sending

theorem look_reading_found (now : Nat) (session : Session) (shared : Shared) (side : OutputSide)
    (active : side.stream.lifecycle.state = .active) (point : ReadPoint) (call : Call) :
    Found .output (session.storeOutput (side.look now shared (.reading point call))) := by
  have ⟨same, _⟩ := side.receive_cases now shared call
  rw [OutputSide.look, OutputSide.lookReading]
  generalize OutputSide.receive now shared side call = received at same
  obtain ⟨shared, next, outcome⟩ := received
  cases outcome with
  | pending call => exact .blocked rfl .reading
  | answered answer =>
    apply session.follow_found_output
    intro _ _
    rw [OutputStream.received_lifecycle, same]
    exact active

theorem look_aligning_found (now : Nat) (session : Session) (shared : Shared) (side : OutputSide)
    (active : side.stream.lifecycle.state = .active) (call : Call) :
    Found .output (session.storeOutput (side.look now shared (.aligning call))) := by
  have ⟨same, _⟩ := side.receive_cases now shared call
  rw [OutputSide.look, OutputSide.lookAligning]
  generalize OutputSide.receive now shared side call = received at same
  obtain ⟨shared, next, outcome⟩ := received
  cases outcome with
  | pending call => exact .blocked rfl .aligning
  | answered answer =>
    cases answer with
    | error error => exact .finished
    | ok payload =>
      have kept := next.stream.align_lifecycle payload
      dsimp only
      generalize next.stream.align payload = aligned at kept
      obtain ⟨⟨stream, index?⟩, events⟩ := aligned
      cases index? with
      | some index => exact .finished
      | none =>
        have active : stream.lifecycle.state = .active := by rw [kept, same, active]
        exact .ready (congrArg some active) .aligning

/-- While its stream is active an operation goes on, and leaves the stream active. -/
theorem look_active (now : Nat) (continues : Continues role activity)
    (active : session.state? role = some .active) :
    Found role (process.look now session activity) := by
  cases continues with
  | writing =>
    obtain ⟨side, present, active⟩ := Option.map_eq_some_iff.mp active
    change Found _ (session.onInput _)
    rw [onInput, present]
    exact look_writing_found now session session.shared side active _ _
  | reading =>
    obtain ⟨side, present, active⟩ := Option.map_eq_some_iff.mp active
    change Found _ (session.onOutput _)
    rw [onOutput, present]
    exact look_reading_found now session session.shared side active _ _
  | aligning =>
    obtain ⟨side, present, active⟩ := Option.map_eq_some_iff.mp active
    change Found _ (session.onOutput _)
    rw [onOutput, present]
    exact look_aligning_found now session session.shared side active _

theorem look_found (now : Nat) (waits : Waits role activity)
    (reached : session.state? role = some state) :
    Found role (process.look now session activity) := by
  by_cases active : state = .active
  · exact look_active now waits.continues (active ▸ reached)
  · rw [look_stopped now waits reached active]
    exact .finished

end Looks

/-- An operation that moves datagrams. -/
inductive Operation where
  | write (frame : Bytes)
  /-- Reads into a buffer of the given size. -/
  | read (size : Nat)
  | align
  deriving Repr

namespace Operation

/-- The stream that an operation is one of. -/
def role : Operation → Role
  | .write _ => .input
  | .read _ | .align => .output

def start (session : Session) : Operation → Looked
  | .write frame => session.onInput fun input => input.write session.shared frame
  | .read size => session.onOutput fun output => output.read session.shared size
  | .align => session.onOutput fun output => output.align session.shared

def run (session : Session) (now : Nat) (schedule : Schedule) : Operation → Run
  | .write frame => session.write now frame schedule
  | .read size => session.read now (some size) schedule
  | .align => session.align now schedule

theorem run_eq_follow (session : Session) (now : Nat) (schedule : Schedule)
    (operation : Operation) :
    operation.run session now schedule = follow now schedule (operation.start session) := by
  cases operation <;> rfl

theorem start_shared (session : Session) (operation : Operation) :
    (operation.start session).1.shared = session.shared := by
  cases operation with
  | write frame =>
    change (session.onInput _).1.shared = _
    unfold onInput
    split <;> rfl
  | read size =>
    change (session.onOutput _).1.shared = _
    unfold onOutput
    split <;> rfl
  | align =>
    change (session.onOutput _).1.shared = _
    unfold onOutput
    split
    · rfl
    · rename_i side _
      unfold OutputSide.align
      dsimp only
      split <;> rfl

theorem start_found (session : Session) (operation : Operation) :
    Found operation.role (operation.start session) := by
  cases operation with
  | write frame =>
    change Found _ (session.onInput _)
    unfold onInput
    split
    · exact .finished
    · rename_i side _
      apply session.follow_found_input
      intro point waiting
      rcases side.stream.beginWrite_starts frame with ⟨error, failed⟩ | ⟨active, kept⟩
      · rw [failed] at waiting
        cases waiting
      · rw [kept, active]
  | read size =>
    change Found _ (session.onOutput _)
    unfold onOutput
    split
    · exact .finished
    · rename_i side _
      apply session.follow_found_output
      intro point waiting
      rcases side.stream.beginRead_cases size with ⟨error, failed⟩ | ⟨active, _, started⟩
      · rw [failed] at waiting
        cases waiting
      · rcases started with ⟨_, _, hunts⟩ | ⟨_, assembles⟩
        · rw [hunts]
          exact active
        · generalize (side.stream.beginRead size).value = state at assembles
          cases assembles <;> exact active
  | align =>
    change Found _ (session.onOutput _)
    unfold onOutput
    split
    · exact .finished
    · rename_i side _
      unfold OutputSide.align
      dsimp only
      cases begun : side.stream.beginAlignment with
      | error error => exact .finished
      | ok started =>
        obtain ⟨active, _, same⟩ := OutputStream.beginAlignment_eq_ok begun
        have active : started.value.lifecycle.state = .active := by rw [same]; exact active
        exact .ready (congrArg some active) .aligning

end Operation

/-- How an operation that is interrupted ends. -/
def IsInterrupted
    (glance : Process.Glance Session Activity Happening (Except StreamError Reply)) : Prop :=
  glance.Ends (.error .notActivated) ∨ glance.Ends (.error .aborted)

/-- What holds of a look at an operation, whatever others did since the look before it. -/
structure Safe (role : Role)
    (glance : Process.Glance Session Activity Happening (Except StreamError Reply)) : Prop where
  /-- Datagrams move only while the stream is active. -/
  moves : glance.after.1.shared.channel ≠ glance.before.shared.channel →
    glance.before.state? role = some .active
  stops : glance.before.state? role ≠ some .active → IsInterrupted glance
  /-- What arrived meanwhile then waits behind what was waiting before. -/
  queues : glance.before.state? role ≠ some .active → glance.earlier.output?.isSome = true →
    glance.after.1.queued = glance.earlier.queued ++ Happening.arrivals glance.happened
  /-- No signal that follows on a deactivation hides it. -/
  deactivated : .deactivate ∈ Happening.signals role glance.happened → IsInterrupted glance
  /-- An abort that was not taken back is what the operation ends with. -/
  aborted : ∀ first later, Happening.signals role glance.happened = first ++ .abort :: later →
    .clearAbort ∉ later → .deactivate ∉ later → glance.Ends (.error .aborted)

/-- What is looked at without having waited is safe: its stream was active all along. -/
theorem safe_ready {session : Session} {role : Role} (now : Nat)
    (active : session.state? role = some .active) (activity : Activity) :
    Safe role ⟨session, [], session, process.look now session activity⟩ where
  moves _ := active
  stops stopped := absurd active stopped
  queues stopped := absurd active stopped
  deactivated := nofun
  aborted first later split := by simp [Happening.signals] at split

/-- The state after some happenings is what the signals among them make of it. -/
theorem state?_occurs {session : Session} {role : Role}
    (present : session.lifecycle? role = some lifecycle) (happened : List Happening) :
    (happened.foldl process.occur session).state? role =
      some (lifecycle.signalled (Happening.signals role happened)).state := by
  rw [state?_eq]
  change ((happened.foldl occur session).lifecycle? role).map _ = _
  rw [lifecycle?_occurs, present]
  rfl

/-- What has waited is safe: whatever made the stream stop, it is seen before anything moves. -/
theorem safe_blocked {session : Session} {role : Role} (now : Nat)
    (present : session.lifecycle? role = some lifecycle) (waits : Waits role activity)
    (happened : List Happening) :
    let before := happened.foldl process.occur session
    Safe role ⟨session, happened, before, process.look now before activity⟩ := by
  intro before
  have reached := state?_occurs present happened
  have stopped (inactive : before.state? role ≠ some .active) :
      process.look now before activity = (before, .finished
        (.error (lifecycle.signalled (Happening.signals role happened)).state.interruption)) := by
    rw [reached, ne_eq, Option.some_inj] at inactive
    exact look_stopped now waits reached inactive
  have interrupted (inactive : before.state? role ≠ some .active) :
      IsInterrupted ⟨session, happened, before, process.look now before activity⟩ := by
    rcases ActivationState.interruption_cases _ with same | same
    · exact .inl (same ▸ stopped inactive)
    · exact .inr (same ▸ stopped inactive)
  constructor
  · intro moved
    by_cases active : before.state? role = some .active
    · exact active
    · exact absurd (congrArg (·.1.shared.channel) (stopped active)) moved
  · exact interrupted
  · intro inactive paired
    change (process.look now before activity).1.queued = _
    rw [stopped inactive]
    exact queued_occurs paired happened
  · intro member
    apply interrupted
    rw [reached, ne_eq, Option.some_inj]
    exact Lifecycle.signalled_deactivate member
  · intro first later split uncleared kept
    have aborted : (lifecycle.signalled (Happening.signals role happened)).state = .aborted := by
      rw [split, Lifecycle.signalled_append]
      have lasts : (((lifecycle.signalled first).abort).value.signalled later).isAborted = true :=
        Lifecycle.signalled_abort uncleared kept rfl
      exact if_pos lasts
    rw [aborted] at reached stopped
    exact stopped (by rw [reached]; nofun)

/-- An operation starts without moving anything. However it is then interleaved with other tasks,
every look at it is safe; and what it comes to under a schedule is one such interleaving. -/
theorem interruption_safe (session : Session) (operation : Operation) :
    (operation.start session).1.shared = session.shared ∧
    (∀ glances last, process.Interleaves (operation.start session) glances last →
      ∀ glance ∈ glances, Safe operation.role glance) ∧
    ∀ now schedule result, (operation.run session now schedule).result = some result →
      ∃ glances, process.Interleaves (operation.start session) glances
        ((operation.run session now schedule).world, .finished result) := by
  have start := operation.start_found session
  refine ⟨operation.start_shared session, ?_, ?_⟩
  · intro glances last run
    refine (run.forall_glances ?_ ?_ start).2
    · intro now world activity found
      cases found with
      | ready active continues =>
        exact ⟨look_active now continues active, safe_ready now active activity⟩
    · intro now earlier activity wakeUp happened found
      cases found with
      | blocked present waits =>
        have reached := state?_occurs present happened
        exact ⟨look_found now waits reached, safe_blocked now present waits happened⟩
  · intro now schedule result found
    rw [operation.run_eq_follow] at found ⊢
    generalize operation.start session = started at start found ⊢
    cases start with
    | finished =>
      cases found
      exact ⟨[], .done⟩
    | ready active continues =>
      obtain ⟨glances, run⟩ := Process.interleaves_of_run found
      exact ⟨_, .look run⟩
    | blocked =>
      have undisturbed (session : Session) :
          ([] : List Happening).foldl process.occur session = session := rfl
      obtain ⟨glances, run⟩ := Process.interleaves_of_run found
      exact ⟨_, .poll (undisturbed _) run⟩

private def attentive : Session :=
  let layer : Layer := ⟨"edge", .deviceToHost, 4, 1⟩
  let stream : OutputStream :=
    { layer
      configuration := (OutputConfiguration.ofParameters {} layer).toOption.get rfl
      lifecycle := { name := "edge", isActivated := true }, timeout := defaultTimeout
      batchSize := 1 }
  { shared := ⟨Channel.inMemory 1472, true⟩, shaper := ⟨false, fun _ => none⟩
    output? := some ⟨stream, ⟨.host, []⟩⟩ }

/-- A datagram that arrives together with an abort is not read, and waits; a deactivation shows
though an abort follows on it and is cleared. -/
theorem interruption_safe_of_arrival :
    ∃ session : Session,
      (∃ glances last glance, process.Interleaves ((Operation.read 4).start session) glances last ∧
        glance ∈ glances ∧ glance.happened = [.arrival [1, 2, 3, 4], .signal .output .abort] ∧
        glance.Ends (.error .aborted) ∧ glance.after.1.queued = [[1, 2, 3, 4]]) ∧
      ∃ glances last glance, process.Interleaves ((Operation.read 4).start session) glances last ∧
        glance ∈ glances ∧ glance.happened =
          [.signal .output .deactivate, .signal .output .abort, .signal .output .clearAbort] ∧
        IsInterrupted glance := by
  obtain ⟨_, safe, _⟩ := interruption_safe attentive (.read 4)
  let reading (call : Call) : Activity := .output (.reading (.assembling [] false) call)
  have starts : (Operation.read 4).start attentive = (attentive, .ready (reading .unmade)) := rfl
  have blocks : process.look 0 attentive (reading .unmade) =
      (attentive, .blocked (reading (.due 10000)) (some 10000)) := rfl
  -- The read waits, then others do something, and it is looked at again.
  have run (happened : List Happening) :
      let before := happened.foldl process.occur attentive
      process.Interleaves ((Operation.read 4).start attentive)
        [⟨attentive, [], attentive, process.look 0 attentive (reading .unmade)⟩,
          ⟨attentive, happened, before, process.look 5 before (reading (.due 10000))⟩]
        (process.look 5 before (reading (.due 10000))) := by
    rw [starts]
    refine .look ?_
    rw [blocks]
    exact .poll rfl .done
  have arrived := safe _ _ (run [.arrival [1, 2, 3, 4], .signal .output .abort]) _
    (.tail _ (.head _))
  have hidden := safe _ _ (run [.signal .output .deactivate, .signal .output .abort,
    .signal .output .clearAbort]) _ (.tail _ (.head _))
  refine ⟨attentive, ⟨_, _, _, run _, .tail _ (.head _), rfl, ?_, ?_⟩,
    ⟨_, _, _, run _, .tail _ (.head _), rfl, ?_⟩⟩
  · exact arrived.aborted [] [] rfl List.not_mem_nil List.not_mem_nil
  · refine arrived.queues (fun active => ?_) rfl
    cases active
  · exact hidden.deactivated (.head _)

end Session

end FrameStream
