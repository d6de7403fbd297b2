import FrameStream.Proofs.Attempts
import FrameStream.Proofs.Faults
import FrameStream.Proofs.InputOperations

namespace FrameStream

open Guarded

/-- A frame at work: its bytes before `offset` are in payloads, the last of which is in the
buffer. -/
structure WriteJob where
  frame : Bytes
  offset : Nat
  payload : Bytes

inductive WriteWork where
  | idle
  | activating (batchSize : UInt16) (resume : Bool)
  | asking (job : WriteJob)
  | resting (wait : Duration) (job : WriteJob)
  /-- The payload may be sent, and is so from `sent` on. -/
  | sending (job : WriteJob) (sent : Nat)

/-- An input stream with its buffers. -/
structure FrameWriter where
  stream : InputStream
  work : WriteWork := .idle

/-- What becomes of a writer in a step that may stop, and what its owner is told. -/
abbrev WriterStep := Except Fault (FrameWriter × Option (Except StreamError Reply))

def resized (buffer : Bytes) (length : Nat) : Bytes :=
  buffer.take length ++ List.replicate (length - buffer.length) 0

/-- The header of a payload, and the room that it leaves. -/
def InputConfiguration.headerGuarded (configuration : InputConfiguration) :
    Option SyncMarker → Except Fault (Bytes × Nat)
  | none => return ([], configuration.maximumPayload)
  | some marker => do
    let header ← marker.encodeGuarded configuration.markerSize
    let room ← difference configuration.maximumPayload configuration.markerSize
    return (header, room)

def InputConfiguration.build (configuration : InputConfiguration) (marker? : Option SyncMarker)
    (frame : Bytes) (offset : Nat) : Except Fault WriteJob := do
  let (header, room) ← configuration.headerGuarded marker?
  let stop := min (offset + room) frame.length
  let data ← slice frame offset stop
  let payload := header ++ data
  let isPadded := stop = frame.length && configuration.padsFrames
  return ⟨frame, stop,
    if isPadded then resized payload configuration.maximumPayload else payload⟩

def InputStream.drawGuarded (stream : InputStream) :
    Except Fault (InputStream × Option SyncMarker) :=
  if stream.configuration.syncEnabled then do
    let place ← remainder stream.frameCounter stream.configuration.framesPerSync.toUInt64
    if place = 0 then
      let next := { stream with syncIndex := SyncMarker.successor stream.syncIndex }
      return (next, some ⟨stream.syncIndex⟩)
    else return (stream, none)
  else return (stream, none)

namespace FrameWriter

def refuse (stream : InputStream) (error : StreamError) : WriterStep :=
  .ok ({ stream }, some (.error error))

def proceed (stream : InputStream) (marker? : Option SyncMarker) (frame : Bytes) (offset : Nat) :
    WriterStep :=
  if offset < frame.length then do
    let job ← stream.configuration.build marker? frame offset
    return (⟨stream, .asking job⟩, none)
  else
    return ({ stream := { stream with frameCounter := stream.frameCounter + 1 } }, some (.ok .done))

def begin (stream : InputStream) (frame : Bytes) : WriterStep :=
  if frame.length ≠ stream.layer.frameSize then
    refuse stream (.invalidFrameSize stream.layer.frameSize frame.length)
  else
    match stream.lifecycle.ensureActive with
    | .error error => refuse stream error
    | .ok _ => do
      let (stream, marker?) ← stream.drawGuarded
      proceed stream marker? frame 0

def offer (stream : InputStream) (job : WriteJob) (sent : Nat) : WriterStep :=
  if sent < job.payload.length then do
    let _ ← slice job.payload sent job.payload.length
    return (⟨stream, .sending job sent⟩, none)
  else proceed stream none job.frame job.offset

def granted (stream : InputStream) (job : WriteJob) (answer : Except RateError Duration) :
    WriterStep :=
  match answer with
  | .error error => refuse stream (.rateLimit error)
  | .ok wait => if wait.isZero then offer stream job 0 else .ok (⟨stream, .resting wait job⟩, none)

def rested (stream : InputStream) (job : WriteJob) (outcome : Except StreamError Unit) :
    WriterStep :=
  match outcome with
  | .error error => refuse stream error
  | .ok _ => .ok (⟨stream, .asking job⟩, none)

def delivered (stream : InputStream) (job : WriteJob) (sent : Nat)
    (outcome : Except StreamError Nat) : WriterStep :=
  match outcome with
  | .error error => refuse stream error
  | .ok accepted => do
    let remaining ← slice job.payload sent job.payload.length
    if accepted = 0 then refuse stream (.transport (.io "send" (.ofKind .writeZero)))
    else
      if accepted < remaining.length then
        let _ ← difference remaining.length accepted
      offer stream job (sent + min accepted remaining.length)

def respond (writer : FrameWriter) (incident : InputIncident) : WriterStep :=
  let stream := writer.stream
  match writer.work, incident with
  | work, .meet (.signal request) => .ok (⟨(stream.signal request).value, work⟩, none)
  | .idle, .setTimeout timeout => .ok ({ stream := { stream with timeout } }, none)
  | .idle, .write frame => begin stream frame
  | .asking job, .meet (.reserve length answer) =>
    if length = job.payload.length then granted stream job answer else .ok (writer, none)
  | .resting wait job, .meet (.rest slept outcome) =>
    if slept = wait then rested stream job outcome else .ok (writer, none)
  | .sending job sent, .meet (.send offered outcome) =>
    if offered = job.payload.drop sent then delivered stream job sent outcome
    else .ok (writer, none)
  | .idle, .activate requested resume =>
    match stream.beginActivation requested with
    | .error error => refuse stream error
    | .ok batchSize => .ok (⟨stream, .activating batchSize resume⟩, none)
  | .activating _ _, .settle false => refuse stream (activationTimeout stream.timeout)
  | .activating batchSize resume, .settle true =>
    match stream.completeActivation batchSize resume with
    | .error error => refuse stream error
    | .ok activated => .ok ({ stream := activated.value }, some (.ok .done))
  | _, _ => .ok (writer, none)

def follow :
    FrameWriter → List InputIncident → Except Fault (FrameWriter × List (Except StreamError Reply))
  | writer, [] => .ok (writer, [])
  | writer, incident :: incidents => do
    let (next, reply?) ← writer.respond incident
    let (last, replies) ← next.follow incidents
    return (last, reply?.toList ++ replies)

end FrameWriter

def WriteJob.later (configuration : InputConfiguration) (job : WriteJob) : List Bytes :=
  configuration.payloads none (job.frame.drop job.offset)

def WriteWork.task (configuration : InputConfiguration) : WriteWork → InputTask
  | .idle => .idle
  | .activating batchSize resume => .activating batchSize resume
  | .asking job => .writing (.asking job.payload (job.later configuration))
  | .resting wait job => .writing (.resting wait job.payload (job.later configuration))
  | .sending job sent => .writing (.sending job.payload sent (job.later configuration))

/-- No more was sent than there is. -/
def WriteWork.Within : WriteWork → Prop
  | .sending job sent => sent ≤ job.payload.length
  | _ => True

structure FrameWriter.Shows (writer : FrameWriter) (stream : InputStream) (task : InputTask) :
    Prop where
  stream_eq : writer.stream = stream
  task_eq : writer.work.task stream.configuration = task
  within : writer.work.Within

def WriterStep.Matches (step : WriterStep) (next : InputConsequence) : Prop :=
  ∃ writer, step = .ok (writer, next.reply?) ∧ writer.Shows next.stream next.task

namespace InputConfiguration

variable {configuration : InputConfiguration} {marker? : Option SyncMarker} {frame : Bytes}

theorem payloadsFrom_eq_cons (configuration : InputConfiguration) (payload rest : Bytes) :
    configuration.payloadsFrom payload rest =
      (if rest = [] then configuration.padded payload else payload) ::
        configuration.payloads none rest := by
  cases rest with
  | nil =>
    rw [payloadsFrom]
    rfl
  | cons next more =>
    rw [payloadsFrom, if_neg (List.cons_ne_nil next more)]
    rfl

theorem resized_eq_padded (pads : configuration.padsFrames = true)
    (within : payload.length ≤ configuration.maximumPayload) :
    resized payload configuration.maximumPayload = configuration.padded payload := by
  rw [resized, padded, if_pos pads, List.take_of_length_le within]

/-- A marker is always written, and leaves room. -/
theorem headerGuarded_eq (marked : marker?.isSome = true → configuration.syncEnabled = true) :
    configuration.headerGuarded marker? =
        .ok (configuration.header marker?,
          configuration.maximumPayload - (configuration.header marker?).length) ∧
      (configuration.header marker?).length < configuration.maximumPayload := by
  cases marker? with
  | none => exact ⟨rfl, configuration.payload_pos⟩
  | some marker =>
    have length := marker.encode_length (configuration.marker_min (marked rfl))
    have room := configuration.marker_lt (marked rfl)
    rw [headerGuarded, marker.encodeGuarded_eq (configuration.marker_min (marked rfl)),
      difference_of_le (Nat.le_of_lt room), header, Option.map_some, Option.getD_some, length]
    exact ⟨rfl, room⟩

theorem build_eq (marked : marker?.isSome = true → configuration.syncEnabled = true)
    (more : offset < frame.length) :
    ∃ job, configuration.build marker? frame offset = .ok job ∧
      configuration.payloads marker? (frame.drop offset) =
        job.payload :: job.later configuration := by
  obtain ⟨guarded, fits⟩ := configuration.headerGuarded_eq marked
  have present : ¬ (frame.drop offset).isEmpty = true := by simp; omega
  rw [build, guarded, payloads, if_neg present]
  change ∃ job, _ ∧ configuration.payloadsFrom
    (configuration.header marker? ++ (frame.drop offset).take
      (configuration.maximumPayload - (configuration.header marker?).length))
    ((frame.drop offset).drop
      (configuration.maximumPayload - (configuration.header marker?).length)) = _
  generalize configuration.header marker? = header at fits ⊢
  generalize size : configuration.maximumPayload - header.length = room
  generalize reached : min (offset + room) frame.length = stop
  -- An offset is cut off at the end of the frame, where the rest of a frame has no more to take.
  have data : (frame.take stop).drop offset = (frame.drop offset).take room := by
    rw [List.drop_take, ← reached]
    by_cases last : offset + room ≤ frame.length
    · rw [Nat.min_eq_left last, Nat.add_sub_cancel_left]
    · rw [List.take_of_length_le (by simp; omega), List.take_of_length_le (by simp; omega)]
  have rest : (frame.drop offset).drop room = frame.drop stop := by
    rw [List.drop_drop, ← reached]
    by_cases last : offset + room ≤ frame.length
    · rw [Nat.min_eq_left last]
    · rw [List.drop_of_length_le (by omega), List.drop_of_length_le (by omega)]
  have within :
      (header ++ (frame.drop offset).take room).length ≤ configuration.maximumPayload := by
    rw [List.length_append, List.length_take]
    omega
  have empty : frame.drop stop = [] ↔ stop = frame.length := by
    rw [List.drop_eq_nil_iff]
    omega
  simp only [bind, Except.bind, reached]
  rw [slice_of_le (by omega) (by omega), data, rest, payloadsFrom_eq_cons]
  refine ⟨_, rfl, congrArg (· :: _) ?_⟩
  by_cases last : stop = frame.length
  · rw [if_pos (empty.mpr last)]
    cases pads : configuration.padsFrames with
    | true => rw [← resized_eq_padded pads within, decide_eq_true last]; rfl
    | false => rw [padded, pads, Bool.and_false]; rfl
  · rw [if_neg (fun none => last (empty.mp none)), decide_eq_false last]
    rfl

end InputConfiguration

theorem InputStream.drawGuarded_eq (stream : InputStream) :
    stream.drawGuarded = .ok (stream.drawn, stream.nextMarker?) := by
  unfold drawGuarded drawn nextMarker?
  cases enabled : stream.configuration.syncEnabled with
  | false => rfl
  | true =>
    have cadence : stream.configuration.framesPerSync.toUInt64 ≠ 0 := fun none =>
      stream.configuration.cadence_pos enabled
        (UInt32.toNat_inj.mp (by simpa using congrArg UInt64.toNat none))
    rw [if_pos rfl, remainder_of_ne_zero cadence, Bool.true_and]
    change (if _ = (0 : UInt64) then _ else _) = _
    split <;> simp_all [pure, Except.pure]

namespace FrameWriter

variable {stream : InputStream} {frame : Bytes} {job : WriteJob}

theorem refuse_matches (stream : InputStream) (error : StreamError) :
    WriterStep.Matches (refuse stream error) (.refuse stream error) :=
  ⟨_, rfl, rfl, rfl, trivial⟩

/-- The payloads of the rest of a frame are built one after another. -/
theorem proceed_matches (stream : InputStream) (frame : Bytes) (offset : Nat)
    (marked : marker?.isSome = true → stream.configuration.syncEnabled = true) :
    WriterStep.Matches (proceed stream marker? frame offset)
      (.ofWrite (stream.proceed
        (stream.configuration.payloads marker? (frame.drop offset))).value) := by
  unfold proceed
  split
  · rename_i more
    obtain ⟨job, built, payloads⟩ := InputConfiguration.build_eq marked more
    rw [built, payloads]
    exact ⟨_, rfl, rfl, rfl, trivial⟩
  · rename_i done
    have none : stream.configuration.payloads marker? (frame.drop offset) = [] := by
      rw [List.drop_of_length_le (Nat.not_lt.mp done)]
      rfl
    rw [none]
    exact ⟨_, rfl, rfl, rfl, trivial⟩

theorem begin_matches (stream : InputStream) (frame : Bytes) :
    WriterStep.Matches (begin stream frame) (.ofWrite (stream.beginWrite frame).value) := by
  by_cases exact : frame.length = stream.layer.frameSize
  · cases ready : stream.lifecycle.ensureActive with
    | error error =>
      have refused : (stream.beginWrite frame).value = (stream, .finished (.error error)) := by
        simp [InputStream.beginWrite, exact, ready, InputStream.fail]
      rw [begin, if_neg (fun other => other exact), ready, refused]
      exact refuse_matches stream error
    | ok _ =>
      have active := (Lifecycle.ensureActive_eq_ok _).mp ready
      have marked : stream.nextMarker?.isSome = true →
          stream.configuration.syncEnabled = true := by
        unfold InputStream.nextMarker?
        cases stream.configuration.syncEnabled with
        | false => exact id
        | true => exact fun _ => rfl
      obtain ⟨syncIndex, drawn⟩ := stream.drawn_changes
      rw [begin, if_neg (fun other => other exact), ready,
        InputStream.beginWrite_drawn active exact]
      change WriterStep.Matches (do
        let (stream, marker?) ← stream.drawGuarded
        proceed stream marker? frame 0) _
      rw [stream.drawGuarded_eq, drawn]
      exact proceed_matches { stream with syncIndex } frame 0 marked
  · rw [begin, if_pos exact, InputStream.beginWrite, if_pos exact]
    exact refuse_matches stream _

theorem offer_matches (stream : InputStream) (job : WriteJob) (sent : Nat) :
    WriterStep.Matches (offer stream job sent)
      (.ofWrite (stream.offer job.payload sent (job.later stream.configuration)).value) := by
  rw [stream.offer_value, offer]
  split
  · rename_i more
    rw [slice_back (Nat.le_of_lt more)]
    exact ⟨_, rfl, rfl, rfl, Nat.le_of_lt more⟩
  · exact proceed_matches stream job.frame job.offset nofun

theorem granted_matches (stream : InputStream) (job : WriteJob)
    (answer : Except RateError Duration) :
    WriterStep.Matches (granted stream job answer)
      (.ofWrite (stream.granted job.payload (job.later stream.configuration) answer).value) := by
  cases answer with
  | error error => exact refuse_matches stream _
  | ok wait =>
    rw [granted, InputStream.granted]
    split
    · exact offer_matches stream job 0
    · exact ⟨_, rfl, rfl, rfl, trivial⟩

theorem rested_matches (stream : InputStream) (job : WriteJob)
    (outcome : Except StreamError Unit) :
    WriterStep.Matches (rested stream job outcome)
      (.ofWrite (stream.rested job.payload (job.later stream.configuration) outcome).value) := by
  cases outcome with
  | error error => exact refuse_matches stream error
  | ok _ => exact ⟨_, rfl, rfl, rfl, trivial⟩

/-- However many bytes a transport says it took, no more are counted than were left. -/
theorem delivered_matches (stream : InputStream) (job : WriteJob)
    (within : sent ≤ job.payload.length) (outcome : Except StreamError Nat) :
    WriterStep.Matches (delivered stream job sent outcome)
      (.ofWrite (stream.delivered job.payload sent (job.later stream.configuration)
        outcome).value) := by
  match outcome with
  | .error error => exact refuse_matches stream error
  | .ok 0 =>
    rw [delivered, slice_back within]
    exact refuse_matches stream _
  | .ok (accepted + 1) =>
    rw [stream.delivered_offer _ _ _ (Nat.succ_pos accepted), delivered, slice_back within]
    have offered := offer_matches stream job
      (sent + min (accepted + 1) (job.payload.length - sent))
    rw [← List.length_drop] at offered ⊢
    simp only [bind, Except.bind, if_neg (Nat.succ_ne_zero accepted)]
    split
    · rw [difference_of_le (Nat.le_of_lt ‹_›)]
      exact offered
    · exact offered

theorem respond_matches {writer : FrameWriter} {task : InputTask} {incident : InputIncident}
    {next : InputConsequence} (shows : writer.Shows stream task)
    (responds : stream.Responds task incident next) :
    WriterStep.Matches (writer.respond incident) next := by
  obtain ⟨stream, work⟩ := writer
  obtain ⟨rfl, task_eq, within⟩ := shows
  cases responds with
  | signal => exact ⟨_, rfl, rfl, task_eq, within⟩
  | setTimeout =>
    cases work <;> cases task_eq
    exact ⟨_, rfl, rfl, rfl, trivial⟩
  | write =>
    cases work <;> cases task_eq
    exact begin_matches stream _
  | reserve =>
    cases work <;> cases task_eq
    simp only [respond, if_pos]
    exact granted_matches stream _ _
  | rest =>
    cases work <;> cases task_eq
    simp only [respond, if_pos]
    exact rested_matches stream _ _
  | send =>
    cases work <;> cases task_eq
    simp only [respond, if_pos]
    exact delivered_matches stream _ within _
  | unready refused =>
    cases work <;> cases task_eq
    simp only [respond, refused]
    exact refuse_matches stream _
  | activate accepted =>
    cases work <;> cases task_eq
    simp only [respond, accepted]
    exact ⟨_, rfl, rfl, rfl, trivial⟩
  | expire =>
    cases work <;> cases task_eq
    exact refuse_matches stream _
  | overtaken refused =>
    cases work <;> cases task_eq
    simp only [respond, refused]
    exact refuse_matches stream _
  | activated activation =>
    cases work <;> cases task_eq
    simp only [respond, activation]
    exact ⟨_, rfl, rfl, rfl, trivial⟩

theorem respond_or_pass (writer : FrameWriter) (incident : InputIncident) :
    (∃ next, writer.stream.Responds (writer.work.task writer.stream.configuration) incident next) ∨
      writer.respond incident = .ok (writer, none) := by
  obtain ⟨stream, work⟩ := writer
  cases incident with
  | write frame =>
    cases work with
    | idle => exact .inl ⟨_, .write⟩
    | _ => exact .inr rfl
  | activate requested resume =>
    cases work with
    | idle =>
      cases begun : stream.beginActivation requested with
      | error error => exact .inl ⟨_, .unready begun⟩
      | ok batchSize => exact .inl ⟨_, .activate begun⟩
    | _ => exact .inr rfl
  | setTimeout timeout =>
    cases work with
    | idle => exact .inl ⟨_, .setTimeout timeout⟩
    | _ => exact .inr rfl
  | settle isReady =>
    cases work with
    | activating batchSize resume =>
      cases isReady with
      | false => exact .inl ⟨_, .expire⟩
      | true =>
        cases completed : stream.completeActivation batchSize resume with
        | error error => exact .inl ⟨_, .overtaken completed⟩
        | ok activated => exact .inl ⟨_, .activated completed⟩
    | _ => exact .inr (by cases isReady <;> rfl)
  | meet exchange =>
    cases exchange with
    | signal request => exact .inl ⟨_, .signal _⟩
    | reserve length answer =>
      cases work with
      | asking job =>
        by_cases same : length = job.payload.length
        · subst same
          exact .inl ⟨_, .reserve⟩
        · exact .inr (if_neg same)
      | _ => exact .inr rfl
    | rest slept outcome =>
      cases work with
      | resting wait job =>
        by_cases same : slept = wait
        · subst same
          exact .inl ⟨_, .rest⟩
        · exact .inr (if_neg same)
      | _ => exact .inr rfl
    | send offered outcome =>
      cases work with
      | sending job sent =>
        by_cases same : offered = job.payload.drop sent
        · subst same
          exact .inl ⟨_, .send⟩
        · exact .inr (if_neg same)
      | _ => exact .inr rfl

end FrameWriter

end FrameStream
