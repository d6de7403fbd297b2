import FrameStream.Proofs.Faults
import FrameStream.Proofs.Hunting

/-!
Reads with every access spelt out. A frame is filled in the buffer of the owner from a scratch
buffer that the transport writes to, and each step stops where it is not defined. None ever does, as
long as the transport reports no more than the scratch buffer holds: a frame is never filled beyond
its end, a marker that was recognized is there, and less than a payload is left over.
-/

namespace FrameStream

open Guarded

/-- What an output stream is doing, in the terms of its buffers. -/
inductive ReadWork where
  | idle
  | activating (batchSize : UInt16) (resume : Bool)
  /-- A read into a buffer looks for a marker first. -/
  | hunting (buffer : Bytes)
  /-- The first bytes of a buffer are those of a frame. -/
  | filling (buffer : Bytes) (filled : Nat) (started : Bool)
  | aligning

/-- An output stream with the buffer of its owner. -/
structure FrameReader where
  stream : OutputStream
  work : ReadWork := .idle

inductive ReaderIncident where
  | read (buffer : Bytes)
  | align
  | activate (requested : UInt16) (resume : Bool)
  | setTimeout (timeout : Duration)
  | settle (isReady : Bool)
  /-- What the transport left in the scratch buffer, and how much of it is new as it says. -/
  | receive (scratch : Bytes) (report : Except StreamError Nat)
  | signal (request : Lifecycle.Signal)

/-- What becomes of a reader in a step that may stop, and what its owner is told. -/
abbrev ReaderStep := Except Fault (FrameReader × Option (Except StreamError Reply))

namespace FrameReader

def refuse (stream : OutputStream) (error : StreamError) : ReaderStep :=
  .ok ({ stream }, some (.error error))

def goOn (stream : OutputStream) (buffer : Bytes) (filled : Nat) (started : Bool) : ReaderStep :=
  if filled < buffer.length then .ok (⟨stream, .filling buffer filled started⟩, none)
  else do
    assert (stream.leftover.length < stream.configuration.maximumPayload)
    return ({ stream }, some (.ok (.frame buffer)))

def beginFrame (stream : OutputStream) (buffer : Bytes) (aligned : Bool) : ReaderStep := do
  let filled := min stream.leftover.length buffer.length
  let front ← slice stream.leftover 0 filled
  let buffer ← overwrite buffer 0 filled front
  let leftover ← advance stream.leftover filled
  goOn { stream with leftover } buffer filled (aligned || 0 < filled)

def begin (stream : OutputStream) (buffer : Bytes) : ReaderStep :=
  if buffer.length ≠ stream.layer.frameSize then
    refuse stream (.invalidFrameSize stream.layer.frameSize buffer.length)
  else
    match stream.lifecycle.ensureActive with
    | .error error => refuse stream error
    | .ok _ =>
      if stream.isHunting then
        match stream.beginAlignment with
        | .error error => refuse stream error
        | .ok started => .ok (⟨started.value, .hunting buffer⟩, none)
      else beginFrame stream buffer false

def align (stream : OutputStream) (scratch : Bytes) (length : Nat) :
    Except Fault (OutputStream × Option UInt32) := do
  let payload ← slice scratch 0 length
  match ← SyncMarker.decodeGuarded payload stream.configuration.markerSize with
  | none =>
    let discarded := stream.statistics.discardedPayloads + 1
    return ({ stream with statistics.discardedPayloads := discarded }, none)
  | some marker =>
    let data ← slice scratch stream.configuration.markerSize length
    return ({ stream with
      lastIndex := marker.index
      isHunting := false
      statistics.resyncs := stream.statistics.resyncs + 1
      leftover := stream.leftover ++ data }, some marker.index)

/-- Where the data of what was received starts, once its marker is noted. -/
def openPayload (stream : OutputStream) (started : Bool) (scratch : Bytes) (length : Nat) :
    Except Fault (OutputStream × Nat) :=
  if stream.configuration.syncEnabled && !started then do
    let payload ← slice scratch 0 length
    match ← SyncMarker.decodeGuarded payload stream.configuration.markerSize with
    | none => return (stream, 0)
    | some marker => return ((stream.observe marker.index).value, stream.configuration.markerSize)
  else return (stream, 0)

def place (stream : OutputStream) (buffer : Bytes) (filled : Nat) (scratch : Bytes)
    (start length : Nat) : ReaderStep := do
  let data ← slice scratch start length
  let room ← difference buffer.length filled
  let taken := min data.length room
  let front ← slice data 0 taken
  let buffer ← overwrite buffer filled (filled + taken) front
  if taken < data.length then
    let rest ← slice data taken data.length
    goOn { stream with leftover := stream.leftover ++ rest } buffer (filled + taken) true
  else goOn stream buffer (filled + taken) true

def answer (stream : OutputStream) (report : Except StreamError Nat) : Except StreamError Nat :=
  match stream.lifecycle.ensureActive with
  | .error error => .error error
  | .ok _ => report

def receivedHunting (stream : OutputStream) (buffer scratch : Bytes)
    (outcome : Except StreamError Nat) : ReaderStep :=
  match outcome with
  | .error error => refuse stream error
  | .ok length => do
    let (stream, index?) ← align stream scratch length
    if index?.isSome then beginFrame stream buffer true
    else return (⟨stream, .hunting buffer⟩, none)

def receivedFilling (stream : OutputStream) (buffer : Bytes) (filled : Nat) (started : Bool)
    (scratch : Bytes) (outcome : Except StreamError Nat) : ReaderStep :=
  match outcome with
  | .error error => refuse (stream.loseFrame error (buffer.take filled)).value error
  | .ok length => do
    let (stream, start) ← openPayload stream started scratch length
    place stream buffer filled scratch start length

def receivedAligning (stream : OutputStream) (scratch : Bytes)
    (outcome : Except StreamError Nat) : ReaderStep :=
  match outcome with
  | .error error => refuse stream error
  | .ok length => do
    let (stream, index?) ← align stream scratch length
    match index? with
    | none => return (⟨stream, .aligning⟩, none)
    | some index => return ({ stream }, some (.ok (.index index)))

/-- What an incident leads to. One that cannot happen at the work at hand changes nothing. -/
def respond (reader : FrameReader) (incident : ReaderIncident) : ReaderStep :=
  let stream := reader.stream
  match reader.work, incident with
  | work, .signal request => .ok (⟨(stream.signal request).value, work⟩, none)
  | .idle, .setTimeout timeout => .ok ({ stream := { stream with timeout } }, none)
  | .idle, .read buffer => begin stream buffer
  | .idle, .align =>
    match stream.beginAlignment with
    | .error error => refuse stream error
    | .ok started => .ok (⟨started.value, .aligning⟩, none)
  | .hunting buffer, .receive scratch report =>
    receivedHunting stream buffer scratch (answer stream report)
  | .filling buffer filled started, .receive scratch report =>
    receivedFilling stream buffer filled started scratch (answer stream report)
  | .aligning, .receive scratch report => receivedAligning stream scratch (answer stream report)
  | .idle, .activate requested resume =>
    match stream.beginActivation requested with
    | .error error => refuse stream error
    | .ok batchSize => .ok (⟨stream, .activating batchSize resume⟩, none)
  | .activating _ _, .settle false => refuse stream (activationTimeout stream.timeout)
  | .activating batchSize resume, .settle true =>
    match stream.completeActivation batchSize resume with
    | .error error => refuse stream error
    | .ok activated => .ok ({ stream := activated.value }, some (.ok .done))
  | _, _ => .ok (reader, none)

def follow :
    FrameReader → List ReaderIncident → Except Fault (FrameReader × List (Except StreamError Reply))
  | reader, [] => .ok (reader, [])
  | reader, incident :: incidents => do
    let (next, reply?) ← reader.respond incident
    let (last, replies) ← next.follow incidents
    return (last, reply?.toList ++ replies)

end FrameReader

def ReadWork.task : ReadWork → Task
  | .idle => .idle
  | .activating batchSize resume => .activating batchSize resume
  | .hunting _ => .reading .hunting
  | .filling buffer filled started => .reading (.assembling (buffer.take filled) started)
  | .aligning => .aligning

/-- The buffer is that of a frame, and filled to no more than its end. -/
def ReadWork.Fits (frameSize : Nat) : ReadWork → Prop
  | .hunting buffer => buffer.length = frameSize
  | .filling buffer filled _ => buffer.length = frameSize ∧ filled ≤ buffer.length
  | _ => True

/-- A reader for a stream at a task. -/
structure FrameReader.Shows (reader : FrameReader) (stream : OutputStream) (task : Task) :
    Prop where
  stream_eq : reader.stream = stream
  task_eq : reader.work.task = task
  fits : reader.work.Fits stream.layer.frameSize

/-- A step that does not stop, and leads to what the stream says. -/
def ReaderStep.Matches (step : ReaderStep) (next : Consequence) : Prop :=
  ∃ reader, step = .ok (reader, next.reply?) ∧ reader.Shows next.stream next.task

namespace ReaderIncident

/-- What the incident is to the stream: it sees what the transport says is new. -/
def told : ReaderIncident → Incident
  | .read buffer => .read buffer.length
  | .align => .align
  | .activate requested resume => .activate requested resume
  | .setTimeout timeout => .setTimeout timeout
  | .settle isReady => .settle isReady
  | .receive scratch report => .receive (report.map fun length => scratch.take length)
  | .signal request => .signal request

/-- The transport keeps to its contract: it reports no more than the scratch buffer holds. -/
def Honest (maximum : Nat) : ReaderIncident → Prop
  | .receive _ report => ∀ length, report = .ok length → length ≤ maximum
  | _ => True

def Whole (maximum : Nat) : ReaderIncident → Prop
  | .receive scratch _ => scratch.length = maximum
  | _ => True

end ReaderIncident

namespace FrameReader

variable {stream : OutputStream} {buffer scratch : Bytes} {filled length : Nat} {started : Bool}
  {taken? : Option Bytes}

theorem refuse_matches (stream : OutputStream) (error : StreamError) :
    ReaderStep.Matches (refuse stream error) (.refuse stream error) :=
  ⟨_, rfl, rfl, rfl, trivial⟩

theorem goOn_matches (exact : buffer.length = stream.layer.frameSize)
    (within : filled ≤ buffer.length)
    (bounded : stream.leftover.length < stream.configuration.maximumPayload) :
    ReaderStep.Matches (goOn stream buffer filled started)
      (.ofRead taken? (stream.settle (buffer.take filled) started).value) := by
  rw [goOn, OutputStream.settle, List.length_take_of_le within, ← exact]
  split
  · exact ⟨_, rfl, rfl, rfl, exact, within⟩
  · rename_i full
    rw [assert_of bounded, List.take_of_length_le (Nat.not_lt.mp full)]
    exact ⟨_, rfl, rfl, rfl, trivial⟩

theorem beginFrame_matches (exact : buffer.length = stream.layer.frameSize)
    (bounded : stream.leftover.length < stream.configuration.maximumPayload) (aligned : Bool) :
    ReaderStep.Matches (beginFrame stream buffer aligned)
      (.ofRead taken? (stream.beginFrame aligned).value) := by
  generalize size : min stream.leftover.length buffer.length = filled
  have within : filled ≤ stream.leftover.length := size ▸ Nat.min_le_left _ _
  have room : filled ≤ buffer.length := size ▸ Nat.min_le_right _ _
  have front : (stream.leftover.take filled).length = filled := List.length_take_of_le within
  obtain ⟨next, written, same, holds⟩ :=
    overwrite_within (Nat.zero_le filled) room (front.trans (Nat.sub_zero _).symm)
  have begun : stream.leftover.take stream.layer.frameSize = next.take filled := by
    rw [List.take_eq_take_min, ← exact, Nat.min_comm, size, holds]
    rfl
  have rest : stream.leftover.drop stream.layer.frameSize = stream.leftover.drop filled := by
    rw [List.drop_eq_drop_min, ← exact, Nat.min_comm, size]
  have started : (!(next.take filled).isEmpty) = decide (0 < filled) := by
    have count : (next.take filled).length = filled := List.length_take_of_le (same ▸ room)
    generalize next.take filled = bytes at count
    subst count
    cases bytes <;> rfl
  simp only [beginFrame, size, slice_front within, written, advance_of_le within, bind, Except.bind]
  rw [OutputStream.beginFrame, begun, rest, started]
  refine goOn_matches (same.trans exact) (same ▸ room) (Nat.lt_of_le_of_lt ?_ bounded)
  exact (List.drop_sublist filled stream.leftover).length_le

theorem begin_matches (steady : stream.Steady .idle) (buffer : Bytes) :
    ReaderStep.Matches (begin stream buffer)
      (.ofRead none (stream.beginRead buffer.length).value) := by
  by_cases exact : buffer.length = stream.layer.frameSize
  · have sized : ¬ buffer.length ≠ stream.layer.frameSize := fun other => other exact
    simp only [begin, OutputStream.beginRead, if_neg sized]
    cases stream.lifecycle.ensureActive with
    | error error => exact refuse_matches stream error
    | ok _ =>
      dsimp only
      split
      · cases aligned : stream.beginAlignment with
        | error error => exact refuse_matches stream error
        | ok started =>
          obtain ⟨_, _, begun⟩ := OutputStream.beginAlignment_eq_ok aligned
          refine ⟨_, rfl, rfl, rfl, ?_⟩
          change buffer.length = started.value.layer.frameSize
          rw [begun]
          exact exact
      · exact beginFrame_matches exact steady.bounded false
  · rw [begin, if_pos exact, OutputStream.beginRead, if_pos exact]
    exact refuse_matches stream _

/-- A marker that was recognized is there, and so is what is behind it. -/
theorem slice_marker {size : Nat} (within : length ≤ scratch.length)
    (decoded : SyncMarker.decode? (scratch.take length) size = some marker) :
    slice scratch size length = .ok ((scratch.take length).drop size) := by
  obtain ⟨_, long⟩ := SyncMarker.length_of_decode? decoded
  rw [List.length_take_of_le within] at long
  exact slice_of_le long within

theorem align_eq (stream : OutputStream) (within : length ≤ scratch.length) :
    align stream scratch length = .ok (stream.align (scratch.take length)).value := by
  simp only [align, slice_front within, SyncMarker.decodeGuarded_eq, bind, Except.bind]
  rw [OutputStream.align]
  cases decoded : SyncMarker.decode? (scratch.take length) stream.configuration.markerSize with
  | none => rfl
  | some marker =>
    simp only [slice_marker within decoded]
    rfl

theorem openPayload_cases (stream : OutputStream) (started : Bool)
    (within : length ≤ scratch.length) :
    ∃ opened start, openPayload stream started scratch length = .ok (opened, start) ∧
      start ≤ length ∧ opened.layer = stream.layer ∧
      opened.configuration = stream.configuration ∧ ∀ filled,
        (stream.receivePayload filled started (scratch.take length)).value =
          (opened.place filled ((scratch.take length).drop start) length).value := by
  have plain (filled : Bytes) :
      (stream.place filled (scratch.take length) (scratch.take length).length).value =
        (stream.place filled ((scratch.take length).drop 0) length).value := by
    rw [List.length_take_of_le within, List.drop_zero]
  unfold openPayload OutputStream.receivePayload
  by_cases looked : (stream.configuration.syncEnabled && !started) = true
  · simp only [if_pos looked, slice_front within, SyncMarker.decodeGuarded_eq, bind, Except.bind]
    cases decoded : SyncMarker.decode? (scratch.take length) stream.configuration.markerSize with
    | none => exact ⟨_, _, rfl, Nat.zero_le _, rfl, rfl, plain⟩
    | some marker =>
      obtain ⟨_, long⟩ := SyncMarker.length_of_decode? decoded
      rw [List.length_take_of_le within] at long ⊢
      exact ⟨_, _, rfl, long, stream.observe_layer _, stream.observe_configuration _, fun _ => rfl⟩
  · simp only [if_neg looked]
    exact ⟨_, _, rfl, Nat.zero_le _, rfl, rfl, plain⟩

/-- A buffer takes the data that it has room for, and no more. -/
theorem place_matches (exact : buffer.length = stream.layer.frameSize)
    (filling : filled ≤ buffer.length) (le : start ≤ length) (within : length ≤ scratch.length)
    (bounded : (stream.place (buffer.take filled) ((scratch.take length).drop start)
      length).value.1.leftover.length < stream.configuration.maximumPayload) :
    ReaderStep.Matches (place stream buffer filled scratch start length)
      (.ofRead taken?
        (stream.place (buffer.take filled) ((scratch.take length).drop start) length).value) := by
  rw [OutputStream.place, List.length_take_of_le filling, ← exact] at bounded ⊢
  simp only [OutputStream.settle_stream, place, slice_of_le le within, difference_of_le filling,
    bind, Except.bind] at bounded ⊢
  generalize (scratch.take length).drop start = data at bounded ⊢
  generalize size : min data.length (buffer.length - filled) = taken
  have some : taken ≤ data.length := size ▸ Nat.min_le_left _ _
  have room : filled + taken ≤ buffer.length := by omega
  have count : (data.take taken).length = filled + taken - filled := by
    rw [List.length_take_of_le some, Nat.add_sub_cancel_left]
  obtain ⟨next, written, same, holds⟩ :=
    overwrite_within (Nat.le_add_right filled taken) room count
  have front : data.take (buffer.length - filled) = data.take taken := by
    rw [List.take_eq_take_min, Nat.min_comm, size]
  have rest : data.drop (buffer.length - filled) = data.drop taken := by
    rw [List.drop_eq_drop_min, Nat.min_comm, size]
  rw [front, ← holds]
  rw [rest] at bounded ⊢
  simp only [slice_front some, written]
  split
  · rw [slice_back some]
    exact goOn_matches (same.trans exact) (same ▸ room) bounded
  · rename_i all
    have none : stream.leftover ++ data.drop taken = stream.leftover := by
      rw [List.drop_of_length_le (Nat.not_lt.mp all), List.append_nil]
    rw [none] at bounded ⊢
    exact goOn_matches (same.trans exact) (same ▸ room) bounded

theorem answer_told {report : Except StreamError Nat}
    (size : scratch.length = stream.configuration.maximumPayload)
    (within : ∀ length, report = .ok length → length ≤ stream.configuration.maximumPayload) :
    stream.answer (report.map fun length => scratch.take length) =
        (answer stream report).map (fun length => scratch.take length) ∧
      ∀ length, answer stream report = .ok length → length ≤ scratch.length := by
  unfold OutputStream.answer answer
  cases stream.lifecycle.ensureActive with
  | error error => exact ⟨rfl, nofun⟩
  | ok _ =>
    refine ⟨?_, fun length reported => size ▸ within length reported⟩
    cases report with
    | error error => rfl
    | ok length =>
      have cut : (scratch.take length).take stream.configuration.maximumPayload =
          scratch.take length := by
        rw [List.take_take, Nat.min_eq_right (within length rfl)]
      exact congrArg Except.ok cut

theorem receivedHunting_matches {outcome : Except StreamError Nat} (empty : stream.leftover = [])
    (size : scratch.length = stream.configuration.maximumPayload)
    (exact : buffer.length = stream.layer.frameSize)
    (within : ∀ length, outcome = .ok length → length ≤ scratch.length) :
    ReaderStep.Matches (receivedHunting stream buffer scratch outcome)
      (.ofRead taken?
        (stream.received .hunting (outcome.map fun length => scratch.take length)).value) := by
  cases outcome with
  | error error => exact refuse_matches stream error
  | ok length =>
    have aligned := align_eq stream (within length rfl)
    rcases stream.align_cases (scratch.take length) with ⟨_, passed⟩ | ⟨marker, decoded, found⟩
    · have received : (stream.received .hunting (.ok (scratch.take length))).value =
          ((stream.align (scratch.take length)).value.1, .waiting .hunting) := by
        simp only [OutputStream.received, passed]
        rfl
      change ReaderStep.Matches _
        (.ofRead taken? (stream.received .hunting (.ok (scratch.take length))).value)
      rw [received, passed]
      rw [passed] at aligned
      rw [receivedHunting, aligned]
      exact ⟨⟨_, .hunting buffer⟩, rfl, rfl, rfl, exact⟩
    · have received : (stream.received .hunting (.ok (scratch.take length))).value =
          ((stream.align (scratch.take length)).value.1.beginFrame true).value := by
        simp only [OutputStream.received, found]
        rfl
      have shorter := stream.length_drop_marker decoded
        (size ▸ (List.take_sublist length scratch).length_le)
      change ReaderStep.Matches _
        (.ofRead taken? (stream.received .hunting (.ok (scratch.take length))).value)
      rw [received, found, empty, List.nil_append]
      rw [found, empty, List.nil_append] at aligned
      rw [receivedHunting, aligned]
      refine beginFrame_matches ?_ ?_ true
      · exact exact
      · exact shorter

theorem receivedFilling_matches {outcome : Except StreamError Nat}
    (exact : buffer.length = stream.layer.frameSize) (filling : filled ≤ buffer.length)
    (within : ∀ length, outcome = .ok length → length ≤ scratch.length)
    (bounded : (stream.received (.assembling (buffer.take filled) started)
      (outcome.map fun length => scratch.take length)).value.1.leftover.length <
        stream.configuration.maximumPayload) :
    ReaderStep.Matches (receivedFilling stream buffer filled started scratch outcome)
      (.ofRead taken? (stream.received (.assembling (buffer.take filled) started)
        (outcome.map fun length => scratch.take length)).value) := by
  cases outcome with
  | error error => exact refuse_matches _ error
  | ok length =>
    have within := within length rfl
    obtain ⟨opened, start, guarded, le, layer, configuration, same⟩ :=
      openPayload_cases stream started within
    change (stream.receivePayload (buffer.take filled) started
      (scratch.take length)).value.1.leftover.length < _ at bounded
    change ReaderStep.Matches _ (.ofRead taken? (stream.receivePayload (buffer.take filled) started
      (scratch.take length)).value)
    rw [same, ← configuration] at bounded
    rw [same]
    simp only [receivedFilling, guarded, bind, Except.bind]
    exact place_matches (layer ▸ exact) filling le within bounded

theorem receivedAligning_matches (within : length ≤ scratch.length) :
    ReaderStep.Matches (receivedAligning stream scratch (.ok length))
      (.ofAlignment (scratch.take length) (stream.align (scratch.take length)).value) := by
  rw [receivedAligning, align_eq stream within]
  obtain ⟨aligned, _ | index⟩ := (stream.align (scratch.take length)).value
  · exact ⟨⟨aligned, .aligning⟩, rfl, rfl, rfl, trivial⟩
  · exact ⟨{ stream := aligned }, rfl, rfl, rfl, trivial⟩

/-- Whatever happens, no step stops. -/
theorem respond_matches {reader : FrameReader} {task : Task} {incident : ReaderIncident}
    {next : Consequence} (shows : reader.Shows stream task) (steady : stream.Steady task)
    (honest : incident.Honest stream.configuration.maximumPayload)
    (whole : incident.Whole stream.configuration.maximumPayload)
    (responds : stream.Responds task incident.told next) :
    ReaderStep.Matches (reader.respond incident) next := by
  have bounded := (steady.respond responds).bounded
  obtain ⟨stream, work⟩ := reader
  obtain ⟨rfl, task_eq, fits⟩ := shows
  cases incident with
  | read buffer =>
    cases responds
    cases work <;> cases task_eq
    exact begin_matches steady buffer
  | align =>
    cases responds with
    | unaligned refused =>
      cases work <;> cases task_eq
      simp only [respond, refused]
      exact refuse_matches stream _
    | align begun =>
      cases work <;> cases task_eq
      simp only [respond, begun]
      exact ⟨_, rfl, rfl, rfl, trivial⟩
  | activate requested resume =>
    cases responds with
    | unready refused =>
      cases work <;> cases task_eq
      simp only [respond, refused]
      exact refuse_matches stream _
    | activate accepted =>
      cases work <;> cases task_eq
      simp only [respond, accepted]
      exact ⟨_, rfl, rfl, rfl, trivial⟩
  | setTimeout timeout =>
    cases responds
    cases work <;> cases task_eq
    exact ⟨_, rfl, rfl, rfl, trivial⟩
  | settle isReady =>
    cases responds with
    | expire =>
      cases work <;> cases task_eq
      exact refuse_matches stream _
    | overtaken refused =>
      cases work <;> cases task_eq
      simp only [respond, refused]
      exact refuse_matches stream _
    | activated activation =>
      cases work <;> cases task_eq
      simp only [respond, activation]
      exact ⟨_, rfl, rfl, rfl, trivial⟩
  | receive scratch report =>
    have ⟨told, within⟩ := answer_told whole honest
    cases responds with
    | @receive point =>
      have same := congrArg (·.2.1) (stream.received_identity point
        (stream.answer (report.map fun length => scratch.take length)))
      simp only [OutputStream.identity] at same
      -- Less than a payload is left over after this very step, so a frame that it ends may end.
      rw [OutputStream.stream_ofRead, same, told] at bounded
      rw [told]
      cases work <;> cases task_eq
      · cases steady.suits with
        | hunting nothing => exact receivedHunting_matches nothing whole fits within
      · exact receivedFilling_matches fits.1 fits.2 within bounded
    | missed missed =>
      cases work <;> cases task_eq
      rw [told] at missed
      cases reported : answer stream report with
      | error error =>
        rw [reported] at missed
        cases missed
        simp only [respond, reported]
        exact refuse_matches stream _
      | ok length =>
        rw [reported] at missed
        cases missed
    | found answered =>
      cases work <;> cases task_eq
      rw [told] at answered
      cases reported : answer stream report with
      | error error =>
        rw [reported] at answered
        cases answered
      | ok length =>
        rw [reported] at answered
        cases answered
        simp only [respond, reported]
        exact receivedAligning_matches (within length reported)
  | signal request =>
    cases responds
    exact ⟨_, rfl, rfl, task_eq, fits⟩

theorem respond_or_pass (reader : FrameReader) (incident : ReaderIncident) :
    (∃ next, reader.stream.Responds reader.work.task incident.told next) ∨
      reader.respond incident = .ok (reader, none) := by
  obtain ⟨stream, work⟩ := reader
  cases incident with
  | read buffer =>
    cases work with
    | idle => exact .inl ⟨_, .read⟩
    | _ => exact .inr rfl
  | align =>
    cases work with
    | idle =>
      cases begun : stream.beginAlignment with
      | error error => exact .inl ⟨_, .unaligned begun⟩
      | ok started => exact .inl ⟨_, .align begun⟩
    | _ => exact .inr rfl
  | activate requested resume =>
    cases work with
    | idle =>
      cases begun : stream.beginActivation requested with
      | error error => exact .inl ⟨_, .unready begun⟩
      | ok batchSize => exact .inl ⟨_, .activate begun⟩
    | _ => exact .inr rfl
  | setTimeout timeout =>
    cases work with
    | idle => exact .inl ⟨_, .setTimeout timeout⟩
    | _ => exact .inr rfl
  | settle isReady =>
    cases work with
    | activating batchSize resume =>
      cases isReady with
      | false => exact .inl ⟨_, .expire⟩
      | true =>
        cases completed : stream.completeActivation batchSize resume with
        | error error => exact .inl ⟨_, .overtaken completed⟩
        | ok activated => exact .inl ⟨_, .activated completed⟩
    | _ => exact .inr (by cases isReady <;> rfl)
  | receive scratch report =>
    cases work with
    | hunting buffer => exact .inl ⟨_, .receive⟩
    | filling buffer filled started => exact .inl ⟨_, .receive⟩
    | aligning =>
      cases answered : stream.answer (report.map fun length => scratch.take length) with
      | error error => exact .inl ⟨_, .missed answered⟩
      | ok payload => exact .inl ⟨_, .found answered⟩
    | _ => exact .inr rfl
  | signal request => exact .inl ⟨_, .signal _⟩

end FrameReader

end FrameStream
