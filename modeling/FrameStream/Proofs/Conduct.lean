import FrameStream.Proofs.Completion
import FrameStream.Proofs.Reading
import FrameStream.Proofs.Writes

namespace FrameStream

namespace InputStream

theorem Writes.append (first : Writes start exchanges middle) (second : Writes middle more last) :
    Writes start (exchanges ++ more) last := by
  induction first with
  | done => exact second
  | reserve _ ih => exact .reserve (ih second)
  | rest _ ih => exact .rest (ih second)
  | send _ ih => exact .send (ih second)
  | signal _ ih => exact .signal (ih second)

end InputStream

theorem OutputStream.Reads.once (stream : OutputStream) (point : ReadPoint) (receipt : Receipt)
    (fits : ∀ payload, receipt = .ok payload →
      payload.length ≤ stream.configuration.maximumPayload) :
    Reads (stream, .waiting point) [receipt] [] (stream.received point receipt).value := by
  have same : receipt.map (List.take stream.configuration.maximumPayload) = receipt := by
    cases receipt with
    | error error => rfl
    | ok payload => rw [Except.map, List.take_of_length_le (fits payload rfl)]
  refine .receive ?_
  rw [same]
  exact .done

namespace InputSide

variable {quantity : Type}

inductive Finds : Progress WritePoint (Except StreamError Unit) → InputLook → Prop where
  | finished : Finds (.finished result) (.finished result)
  | ready : Finds (.waiting point) (.ready (.writing point call))
  | blocked : Finds (.waiting point) (.blocked (.writing point call) wakeUp)

def GoesOn (start : InputStream.WriteState) (looked : Looked quantity) : Prop :=
  ∃ exchanges progress, InputStream.Writes start exchanges (looked.value.2.1.stream, progress) ∧
    Finds progress looked.value.2.2

theorem follow_goesOn (shared : Shared) (input : InputSide quantity)
    (run : InputStream.Writes start exchanges step.value) :
    GoesOn start (follow shared input step) := by
  obtain ⟨⟨stream, progress⟩, events⟩ := step
  cases progress with
  | waiting point => exact ⟨exchanges, .waiting point, run, .ready⟩
  | finished result => exact ⟨exchanges, .finished result, run, .finished⟩

/-- A look at a write is an exchange, unless it only finds out how long to wait. -/
theorem look_goesOn [TokenQuantity quantity] (now : Nat) (shared : Shared)
    (input : InputSide quantity) (point : WritePoint) (call : Call) :
    GoesOn (input.stream, .waiting point) (input.look now shared (.writing point call)) := by
  cases point with
  | asking payload later => exact follow_goesOn _ _ (.reserve .done)
  | resting wait payload later =>
    rw [look, lookResting]
    split
    · exact follow_goesOn _ _ (.rest .done)
    · split
      · split
        · exact follow_goesOn _ _ (.rest .done)
        · exact ⟨[], _, .done, .blocked⟩
      · exact ⟨[], _, .done, .blocked⟩
  | sending payload sent later =>
    rw [look, lookSending]
    split
    · exact follow_goesOn _ _ (.send .done)
    · dsimp only
      split
      · exact follow_goesOn _ _ (.send .done)
      · exact ⟨[], _, .done, .blocked⟩

end InputSide

theorem Channel.receive?_within {channel : Channel} {side : Side} {size : Nat}
    (received : channel.receive? side size = some (next, datagram)) : datagram.length ≤ size := by
  unfold receive? at received
  split at received
  · cases received
  · cases received
    exact List.length_take_le _ _

theorem CallOutcome.ok_of_mapError {outcome : CallOutcome fault value}
    (succeeded : outcome.mapError convert = .answered (.ok result)) :
    outcome = .answered (.ok result) := by
  cases outcome with
  | pending call => cases succeeded
  | answered answer =>
    cases answer with
    | error error => cases succeeded
    | ok reached =>
      cases succeeded
      rfl

namespace Port

variable {port : Port} {channel : Channel} {limit : Duration} {now size : Nat} {payload : Bytes}

theorem await_within
    (awaited : (port.await channel now limit size deadline).2 = .answered (.ok payload)) :
    payload.length ≤ size := by
  unfold await at awaited
  split at awaited
  · rename_i received
    cases awaited
    exact Channel.receive?_within received
  · split at awaited <;> cases awaited

theorem receive_within
    (answered : (port.receive channel now limit size call).2.2 = .answered (.ok payload)) :
    payload.length ≤ size := by
  cases call with
  | unmade =>
    rw [receive] at answered
    dsimp only at answered
    split at answered
    · cases answered
    · cases answered
    · exact await_within answered
  | due deadline => exact await_within answered
  | endless => cases answered

end Port

namespace OutputSide

inductive Finds : Progress ReadPoint (Except StreamError Bytes) → OutputLook → Prop where
  | finished : Finds (.finished result) (.finished (result.map .frame))
  | ready : Finds (.waiting point) (.ready (.reading point call))
  | blocked : Finds (.waiting point) (.blocked (.reading point call) wakeUp)

def GoesOn (start : OutputStream.ReadState) (looked : Looked) : Prop :=
  ∃ receipts progress, OutputStream.Reads start receipts [] (looked.value.2.1.stream, progress) ∧
    Finds progress looked.value.2.2

theorem follow_goesOn (shared : Shared) (output : OutputSide)
    (run : OutputStream.Reads start receipts [] step.value) :
    GoesOn start (follow shared output step) := by
  obtain ⟨⟨stream, progress⟩, events⟩ := step
  cases progress with
  | waiting point => exact ⟨receipts, .waiting point, run, .ready⟩
  | finished result => exact ⟨receipts, .finished result, run, .finished⟩

theorem receive_cases (now : Nat) (shared : Shared) (output : OutputSide) (call : Call) :
    (receive now shared output call).2.1.stream = output.stream ∧
      ∀ payload, (receive now shared output call).2.2 = .answered (.ok payload) →
        payload.length ≤ output.stream.configuration.maximumPayload := by
  unfold receive
  split
  · exact ⟨rfl, fun _ answered => by cases answered⟩
  · exact ⟨rfl, fun _ answered => Port.receive_within (CallOutcome.ok_of_mapError answered)⟩

theorem look_goesOn (now : Nat) (shared : Shared) (output : OutputSide) (point : ReadPoint)
    (call : Call) :
    GoesOn (output.stream, .waiting point) (output.look now shared (.reading point call)) := by
  obtain ⟨same, within⟩ := receive_cases now shared output call
  rw [look, lookReading]
  generalize receive now shared output call = received at same within
  obtain ⟨shared, next, outcome⟩ := received
  obtain ⟨_, _⟩ := output
  obtain ⟨_, _⟩ := next
  cases same
  cases outcome with
  | pending call => exact ⟨[], _, .done, .blocked⟩
  | answered answer =>
    apply follow_goesOn _ _ (OutputStream.Reads.once _ point answer ?_)
    intro payload ok
    exact within payload (congrArg CallOutcome.answered ok)

end OutputSide

namespace Session

theorem signal_input {session : Session} (found : session.input? = some side)
    (request : Lifecycle.Signal) :
    (session.signal .input request).input? = some (side.signal request).value := by
  obtain ⟨shared, shaper, registry, input?, output?, events⟩ := session
  cases found
  rfl

theorem input?_signal_output (session : Session) (request : Lifecycle.Signal) :
    (session.signal .output request).input? = session.input? := by
  obtain ⟨shared, shaper, registry, input?, output?, events⟩ := session
  cases input? <;> cases output? <;> rfl

/-- A session in which a write has gone on from its start. -/
def Writing (start : InputStream.WriteState) (session : Session) (activity : Activity) : Prop :=
  ∃ side point call exchanges, session.input? = some side ∧
    activity = .input (.writing point call) ∧
    InputStream.Writes start exchanges (side.stream, .waiting point)

/-- A session in which a write has come to its end. -/
def Wrote (start : InputStream.WriteState) (session : Session)
    (result : Except StreamError Reply) : Prop :=
  ∃ side exchanges outcome, session.input? = some side ∧
    result = outcome.map (fun _ => .done) ∧
    InputStream.Writes start exchanges (side.stream, .finished outcome)

theorem storeInput_satisfies (session : Session) (looked : InputSide.Looked Float)
    (run : InputStream.Writes start exchanges state) (goesOn : InputSide.GoesOn state looked) :
    Process.Satisfies (Writing start) (Wrote start) (session.storeInput looked) := by
  obtain ⟨⟨shared, side, found⟩, events⟩ := looked
  obtain ⟨more, progress, rest, finds⟩ := goesOn
  cases finds with
  | finished => exact .finished ⟨side, _, _, rfl, rfl, run.append rest⟩
  | ready => exact .ready ⟨side, _, _, _, rfl, rfl, run.append rest⟩
  | blocked => exact .blocked ⟨side, _, _, _, rfl, rfl, run.append rest⟩

theorem look_writing (now : Nat) (session : Session) (activity : Activity)
    (writing : Writing start session activity) :
    Process.Satisfies (Writing start) (Wrote start) (process.look now session activity) := by
  obtain ⟨side, point, call, exchanges, found, rfl, run⟩ := writing
  change Process.Satisfies _ _ (session.onInput _)
  rw [onInput, found]
  exact session.storeInput_satisfies _ run (side.look_goesOn now session.shared point call)

theorem occur_writing (happening : Happening) (session : Session) (activity : Activity)
    (writing : Writing start session activity) :
    Writing start (process.occur session happening) activity := by
  obtain ⟨side, point, call, exchanges, found, rfl, run⟩ := writing
  change Writing start (session.occur happening) _
  cases happening with
  | arrival datagram =>
    refine ⟨side, point, call, exchanges, ?_, rfl, run⟩
    rw [occur, inject]
    split <;> exact found
  | readiness isReady => exact ⟨side, point, call, exchanges, found, rfl, run⟩
  | signal role request =>
    cases role with
    | input =>
      exact ⟨_, point, call, _, signal_input found request, rfl,
        run.append (.signal .done)⟩
    | output =>
      exact ⟨side, point, call, exchanges, (session.input?_signal_output request).trans found, rfl,
        run⟩

/-- Every write that ends is a run of exchanges, whatever its surroundings do meanwhile. -/
theorem write_wrote {session : Session} {schedule : Schedule} (present : session.input? = some side)
    (found : (session.write now frame schedule).result = some result) :
    Wrote (side.stream.beginWrite frame).value (session.write now frame schedule).world result := by
  refine follow_satisfies look_writing (fun entry _ => occur_writing entry.2) ?_ found
  rw [onInput, present]
  exact session.storeInput_satisfies _ .done (InputSide.follow_goesOn _ _ .done)

def Reading (start : OutputStream.ReadState) (session : Session) (activity : Activity) : Prop :=
  ∃ side point call receipts, session.output? = some side ∧
    activity = .output (.reading point call) ∧
    OutputStream.Reads start receipts [] (side.stream, .waiting point)

/-- A session in which a read has come to its end. -/
def DidRead (start : OutputStream.ReadState) (session : Session)
    (result : Except StreamError Reply) : Prop :=
  ∃ side receipts outcome, session.output? = some side ∧ result = outcome.map .frame ∧
    OutputStream.Reads start receipts [] (side.stream, .finished outcome)

theorem storeOutput_satisfies (session : Session) (looked : OutputSide.Looked)
    (run : OutputStream.Reads start receipts [] state) (goesOn : OutputSide.GoesOn state looked) :
    Process.Satisfies (Reading start) (DidRead start) (session.storeOutput looked) := by
  obtain ⟨⟨shared, side, found⟩, events⟩ := looked
  obtain ⟨more, progress, rest, finds⟩ := goesOn
  cases finds with
  | finished => exact .finished ⟨side, _, _, rfl, rfl, run.append rest⟩
  | ready => exact .ready ⟨side, _, _, _, rfl, rfl, run.append rest⟩
  | blocked => exact .blocked ⟨side, _, _, _, rfl, rfl, run.append rest⟩

theorem look_reading (now : Nat) (session : Session) (activity : Activity)
    (reading : Reading start session activity) :
    Process.Satisfies (Reading start) (DidRead start) (process.look now session activity) := by
  obtain ⟨side, point, call, receipts, found, rfl, run⟩ := reading
  change Process.Satisfies _ _ (session.onOutput _)
  rw [onOutput, found]
  exact session.storeOutput_satisfies _ run (side.look_goesOn now session.shared point call)

theorem output?_signal_input (session : Session) (request : Lifecycle.Signal) :
    (session.signal .input request).output? = session.output? := by
  obtain ⟨shared, shaper, registry, input?, output?, events⟩ := session
  cases input? <;> cases output? <;> rfl

/-- Nothing but a signal to the output stream changes that stream. -/
theorem occur_reading (happening : Happening)
    (quiet : ∀ request, happening ≠ .signal .output request) (session : Session)
    (activity : Activity) (reading : Reading start session activity) :
    Reading start (process.occur session happening) activity := by
  obtain ⟨side, point, call, receipts, found, rfl, run⟩ := reading
  refine ⟨side, point, call, receipts, ?_, rfl, run⟩
  change (session.occur happening).output? = some side
  cases happening with
  | arrival datagram =>
    rw [occur, inject, found]
  | readiness isReady => exact found
  | signal role request =>
    cases role with
    | input => exact (session.output?_signal_input request).trans found
    | output => exact absurd rfl (quiet request)

/-- Every read that ends is a run of receipts, if nobody signals to the output stream. -/
theorem read_didRead {session : Session} {schedule : Schedule}
    (present : session.output? = some side)
    (quiet : ∀ entry ∈ schedule, ∀ request, entry.2 ≠ .signal .output request)
    (found : (session.read now size? schedule).result = some result) :
    DidRead (side.stream.beginRead (size?.getD side.stream.layer.frameSize)).value
      (session.read now size? schedule).world result := by
  refine follow_satisfies look_reading
    (fun entry member => occur_reading entry.2 (quiet entry member)) ?_ found
  rw [onOutput, present]
  exact session.storeOutput_satisfies _ .done (OutputSide.follow_goesOn _ _ .done)

end Session

end FrameStream
