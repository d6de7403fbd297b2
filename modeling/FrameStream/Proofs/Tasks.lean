import FrameStream.Proofs.Conduct
import FrameStream.Proofs.Operations

namespace FrameStream

def OutputActivity.task : OutputActivity → Task
  | .activating batchSize resume _ => .activating batchSize resume
  | .reading point _ => .reading point
  | .aligning _ => .aligning

namespace OutputSide

/-- A look finds a stream at a task, or idle after a reply. -/
inductive Shows : Task → Option (Except StreamError Reply) → OutputLook → Prop where
  | finished : Shows .idle (some result) (.finished result)
  | ready {activity : OutputActivity} : activity.task = task → Shows task none (.ready activity)
  | blocked {activity : OutputActivity} : activity.task = task →
      Shows task none (.blocked activity wakeUp)

/-- A look that is a run of incidents, perhaps none, from a task on. -/
def Performs (stream : OutputStream) (task : Task) (looked : Looked) : Prop :=
  ∃ incidents taken reply? reached,
    OutputStream.Runs stream task incidents taken reply?.toList looked.value.2.1.stream reached ∧
      Shows reached reply? looked.value.2.2

variable {stream : OutputStream}

theorem performs_of_responds {looked : Looked}
    (responds : OutputStream.Responds stream task incident next)
    (same : looked.value.2.1.stream = next.stream)
    (found : Shows next.task next.reply? looked.value.2.2) : Performs stream task looked := by
  have run := OutputStream.Runs.step responds OutputStream.Runs.done
  rw [List.append_nil, List.append_nil, ← same] at run
  exact ⟨_, _, _, _, run, found⟩

theorem follow_performs (shared : Shared) (output : OutputSide)
    (responds : OutputStream.Responds stream task incident (.ofRead taken? step.value)) :
    Performs stream task (follow shared output step) := by
  obtain ⟨⟨next, progress⟩, events⟩ := step
  apply performs_of_responds responds
  · cases progress <;> rfl
  · cases progress with
    | waiting point => exact .ready rfl
    | finished result => exact .finished

variable (now : Nat) (shared : Shared) (output : OutputSide)

theorem receive_answers (call : Call) :
    (receive now shared output call).2.1.stream = output.stream ∧
      ∀ answer, (receive now shared output call).2.2 = .answered answer →
        ∃ receipt, output.stream.answer receipt = answer := by
  have ⟨same, within⟩ := output.receive_cases now shared call
  refine ⟨same, fun answer answered => ?_⟩
  cases ready : output.stream.lifecycle.ensureActive with
  | error error =>
    refine ⟨.error error, ?_⟩
    rw [receive, ready] at answered
    cases answered
    rw [OutputStream.answer, ready]
  | ok _ =>
    refine ⟨answer, ?_⟩
    rw [OutputStream.answer, ready]
    cases answer with
    | error error => rfl
    | ok payload =>
      dsimp only [Except.map]
      rw [List.take_of_length_le (within payload answered)]

theorem lookReading_performs (point : ReadPoint) (call : Call) :
    Performs output.stream (.reading point) (lookReading now shared output point call) := by
  obtain ⟨same, answers⟩ := output.receive_answers now shared call
  rw [lookReading]
  generalize receive now shared output call = received at same answers
  obtain ⟨shared, next, outcome⟩ := received
  obtain ⟨stream, port⟩ := next
  cases same
  cases outcome with
  | pending call => exact ⟨[], [], none, _, .done, .blocked rfl⟩
  | answered answer =>
    obtain ⟨receipt, rfl⟩ := answers answer rfl
    exact follow_performs _ _ .receive

theorem lookAligning_performs (call : Call) :
    Performs output.stream .aligning (lookAligning now shared output call) := by
  obtain ⟨same, answers⟩ := output.receive_answers now shared call
  rw [lookAligning]
  generalize receive now shared output call = received at same answers
  obtain ⟨shared, next, outcome⟩ := received
  obtain ⟨stream, port⟩ := next
  cases same
  cases outcome with
  | pending call => exact ⟨[], [], none, _, .done, .blocked rfl⟩
  | answered answer =>
    obtain ⟨receipt, answered⟩ := answers answer rfl
    cases answer with
    | error error => exact performs_of_responds (.missed answered) rfl .finished
    | ok payload =>
      have responds := OutputStream.Responds.found answered
      dsimp only
      generalize output.stream.align payload = step at responds
      obtain ⟨⟨next, index?⟩, events⟩ := step
      cases index? with
      | none => exact performs_of_responds responds rfl (.ready rfl)
      | some index => exact performs_of_responds responds rfl .finished

/-- A look at an operation is an incident, unless it only finds out how long to wait. -/
theorem look_performs (activity : OutputActivity) :
    Performs output.stream activity.task (output.look now shared activity) := by
  cases activity with
  | activating batchSize resume deadline =>
    rw [look, lookActivating]
    split
    · split
      · exact performs_of_responds (.overtaken ‹_›) rfl .finished
      · exact performs_of_responds (.activated ‹_›) rfl .finished
    · split
      · exact performs_of_responds .expire rfl .finished
      · exact ⟨[], [], none, _, .done, .blocked rfl⟩
  | reading point call => exact lookReading_performs now shared output point call
  | aligning call => exact lookAligning_performs now shared output call

theorem align_performs : Performs output.stream .idle (align shared output) := by
  unfold align
  split
  · exact performs_of_responds (.unaligned ‹_›) rfl .finished
  · exact performs_of_responds (.align ‹_›) rfl (.ready rfl)

theorem activate_performs (requested : UInt16) (resume : Bool) :
    Performs output.stream .idle (activate now shared output requested resume) := by
  unfold activate
  split
  · rename_i error refused
    have responds : OutputStream.Responds output.stream .idle (.activate requested resume) _ :=
      .unready refused
    exact performs_of_responds responds rfl .finished
  · exact performs_of_responds (.activate ‹_›) rfl (.ready rfl)

theorem signal_runs (task : Task) (request : Lifecycle.Signal) :
    OutputStream.Runs output.stream task [.signal request] [] []
      (output.signal request).value.stream task :=
  OutputStream.Runs.step (OutputStream.Responds.signal task) OutputStream.Runs.done

end OutputSide

namespace Session

def Doing (start : OutputStream) (session : Session) (activity : Activity) : Prop :=
  ∃ side point incidents taken, session.output? = some side ∧ activity = .output point ∧
    OutputStream.Runs start .idle incidents taken [] side.stream point.task

/-- A session in which an operation of the output stream has come to its end. -/
def Did (start : OutputStream) (session : Session) (result : Except StreamError Reply) : Prop :=
  ∃ side incidents taken, session.output? = some side ∧
    OutputStream.Runs start .idle incidents taken [result] side.stream .idle

theorem storeOutput_does (session : Session) {looked : OutputSide.Looked}
    (run : OutputStream.Runs start .idle incidents taken [] stream task)
    (performs : OutputSide.Performs stream task looked) :
    Process.Satisfies (Doing start) (Did start) (session.storeOutput looked) := by
  obtain ⟨more, others, reply?, reached, rest, shows⟩ := performs
  have whole := run.append rest
  rw [List.nil_append] at whole
  obtain ⟨⟨shared, side, found⟩, events⟩ := looked
  cases shows with
  | finished => exact .finished ⟨side, _, _, rfl, whole⟩
  | ready at' => exact .ready ⟨side, _, _, _, rfl, rfl, at' ▸ whole⟩
  | blocked at' => exact .blocked ⟨side, _, _, _, rfl, rfl, at' ▸ whole⟩

theorem look_doing (now : Nat) (session : Session) (activity : Activity)
    (doing : Doing start session activity) :
    Process.Satisfies (Doing start) (Did start) (process.look now session activity) := by
  obtain ⟨side, point, incidents, taken, found, rfl, run⟩ := doing
  change Process.Satisfies _ _ (session.onOutput _)
  rw [onOutput, found]
  exact session.storeOutput_does run (side.look_performs now session.shared point)

theorem signal_output {session : Session} (found : session.output? = some side)
    (request : Lifecycle.Signal) :
    (session.signal .output request).output? = some (side.signal request).value := by
  obtain ⟨shared, shaper, registry, input?, output?, events⟩ := session
  cases found
  cases input? <;> rfl

theorem occur_doing (happening : Happening) (session : Session) (activity : Activity)
    (doing : Doing start session activity) :
    Doing start (process.occur session happening) activity := by
  obtain ⟨side, point, incidents, taken, found, rfl, run⟩ := doing
  change Doing start (session.occur happening) _
  cases happening with
  | arrival datagram =>
    refine ⟨side, point, incidents, taken, ?_, rfl, run⟩
    rw [occur, inject, found]
  | readiness isReady => exact ⟨side, point, incidents, taken, found, rfl, run⟩
  | signal role request =>
    cases role with
    | input =>
      exact ⟨side, point, incidents, taken, (session.output?_signal_input request).trans found,
        rfl, run⟩
    | output =>
      have signalled := side.signal_runs point.task request
      exact ⟨_, point, _, _, signal_output found request, rfl, run.append signalled⟩

/-- An operation of the output stream that starts with an incident is a run of incidents. -/
theorem follow_did {session : Session} {schedule : Schedule}
    (performs : OutputSide.Performs start .idle started)
    (found : (follow now schedule (session.storeOutput started)).result = some result) :
    Did start (follow now schedule (session.storeOutput started)).world result :=
  follow_satisfies look_doing (fun entry _ => occur_doing entry.2)
    (session.storeOutput_does .done performs) found

section Operations

variable {session : Session} {schedule : Schedule} {side : OutputSide} {now : Nat}
  {result : Except StreamError Reply} (present : session.output? = some side)
include present

/-- Every read that ends is a run of incidents, whatever its surroundings do meanwhile. -/
theorem read_did (found : (session.read now size? schedule).result = some result) :
    Did side.stream (session.read now size? schedule).world result := by
  unfold read onOutput at *
  rw [present] at found ⊢
  exact follow_did (OutputSide.follow_performs _ _ .read) found

theorem align_did (found : (session.align now schedule).result = some result) :
    Did side.stream (session.align now schedule).world result := by
  unfold align onOutput at *
  rw [present] at found ⊢
  exact follow_did (side.align_performs session.shared) found

theorem activate_did
    (found : (session.activate now .output requested resume schedule).result = some result) :
    Did side.stream (session.activate now .output requested resume schedule).world result := by
  unfold activate onOutput at *
  rw [present] at found ⊢
  exact follow_did (side.activate_performs now session.shared requested resume) found

/-- A handle that is used, or a time limit that is set, between operations is a run, too. -/
theorem between_runs (request : Lifecycle.Signal) (timeout : Duration) :
    (∃ next, (session.signal .output request).output? = some next ∧
      OutputStream.Runs side.stream .idle [.signal request] [] [] next.stream .idle) ∧
    ∃ next, (session.setTimeout .output timeout).output? = some next ∧
      OutputStream.Runs side.stream .idle [.setTimeout timeout] [] [] next.stream .idle := by
  constructor
  · exact ⟨_, signal_output present request, side.signal_runs .idle request⟩
  · refine ⟨{ side with stream := { side.stream with timeout } }, ?_, ?_⟩
    · rw [setTimeout, present]
      rfl
    · exact OutputStream.Runs.step (OutputStream.Responds.setTimeout timeout)
        OutputStream.Runs.done

end Operations

end Session

end FrameStream
