import FrameStream.Proofs.Joining

/-!
Round trips. Two joined streams are a queue of frames: what is read is what was written, in order,
under every interleaving of writes and reads. There is one exception, and it is exact. A frame that
is sent without a marker, but whose own bytes open like one, loses these bytes.
-/

namespace FrameStream

namespace Session

def Turn.written? : Turn → Option Bytes
  | .write frame => some frame
  | .read => none

/-- The frames that turns write, in order. -/
def written (turns : List Turn) : List Bytes := turns.filterMap Turn.written?

/-- What turns reply whose reads never get ahead of the writes, if each read takes what was written
first; from what is pending before to what is left after. -/
inductive Queue : List Bytes → List Turn → List Reply → List Bytes → Prop where
  | nil : Queue pending [] [] pending
  | write : Queue (pending ++ [frame]) turns replies left →
      Queue pending (.write frame :: turns) (.done :: replies) left
  | read : Queue pending turns replies left →
      Queue (frame :: pending) (.read :: turns) (.frame frame :: replies) left

/-- The turns of an owner that reads each frame as soon as it is written. -/
def promptTurns (frames : List Bytes) : List Turn :=
  frames.flatMap fun frame => [.write frame, .read]

def promptReplies (frames : List Bytes) : List Reply :=
  frames.flatMap fun frame => [.done, .frame frame]

theorem Queue.prompt (frames : List Bytes) :
    Queue [] (promptTurns frames) (promptReplies frames) [] := by
  induction frames with
  | nil => exact .nil
  | cons frame frames ih => exact .write (.read ih)

theorem written_prompt (frames : List Bytes) : written (promptTurns frames) = frames := by
  induction frames with
  | nil => rfl
  | cons frame frames ih => exact congrArg (frame :: ·) ih

end Session

namespace InputConfiguration

/-- The datagrams of frames that are sent one after another, the first of them at a position. -/
def images (configuration : InputConfiguration) : Nat → List Bytes → List Bytes
  | _, [] => []
  | position, frame :: frames =>
    configuration.image (configuration.marker? position) frame ++
      configuration.images (position + 1) frames

theorem images_concat (configuration : InputConfiguration) (position : Nat) (frames : List Bytes)
    (frame : Bytes) :
    configuration.images position (frames ++ [frame]) =
      configuration.images position frames ++
        configuration.image (configuration.marker? (position + frames.length)) frame := by
  induction frames generalizing position with
  | nil => simp [images]
  | cons earlier frames ih =>
    rw [List.cons_append, images, ih, images, List.append_assoc, List.length_cons,
      Nat.add_right_comm, Nat.add_assoc]

end InputConfiguration

/-- What a stream shows that has received the first frames and nothing else. -/
structure OutputStream.CaughtUp (sending : InputConfiguration) (count : Nat)
    (stream : OutputStream) : Prop where
  gapless : stream.statistics.gaps = 0
  empty : stream.leftover = []
  aligned : stream.isHunting = false
  lastIndex_eq : stream.lastIndex = sending.lastIndex count

namespace Pairing

/-- A session of which the first frames were read, and the frames after them are on their way. -/
structure Underway (pairing : Pairing) (count : Nat) (pending : List Bytes) (session : Session)
    (input : InputStream) (output : OutputStream) : Prop where
  joined : Joined session input output (pairing.configuration.images count pending)
  counts : InputStream.Counts pairing.configuration pairing.sending.layer
    (count + pending.length) (count + pending.length) input
  active : input.lifecycle.state = .active
  inStep : OutputStream.InStep pairing.configuration output.configuration pairing.receiving.layer
    count output
  framing : output.configuration.toFraming = pairing.configuration.toFraming

variable {pairing : Pairing} {count now : Nat} {pending : List Bytes} {session : Session}
  {input : InputStream} {output : OutputStream} {frame : Bytes}

theorem underway (pairing : Pairing) :
    ∃ input output, pairing.Underway 0 [] pairing.session input output := by
  obtain ⟨input, output, joined, counts, active, inStep, framing⟩ := pairing.joined
  exact ⟨input, output, joined, counts, active, inStep, framing⟩

theorem padsFrames_eq (pairing : Pairing) : pairing.configuration.padsFrames = false :=
  (InputConfiguration.padsFrames_eq pairing.configured).trans pairing.unpadded

theorem receiving_pos (pairing : Pairing) : 0 < pairing.receiving.layer.frameSize :=
  pairing.frameSize_eq ▸ pairing.frameSize_pos

namespace Underway

theorem caughtUp (underway : pairing.Underway count pending session input output) :
    output.CaughtUp pairing.configuration count :=
  ⟨underway.inStep.gapless, underway.inStep.empty, underway.inStep.aligned,
    underway.inStep.lastIndex_eq⟩

theorem write (now : Nat) (underway : pairing.Underway count pending session input output)
    (exact : frame.length = pairing.sending.layer.frameSize) :
    ∃ final next, Session.process.Ends now ((Session.Turn.write frame).start session) now final
        (.ok .done) ∧
      pairing.Underway count (pending ++ [frame]) final next output := by
  obtain ⟨final, next, ends, joined, counts, active⟩ :=
    underway.joined.write now underway.counts underway.active pairing.frameSize_pos exact
  rw [← InputConfiguration.images_concat] at joined
  rw [Nat.add_assoc, show pending.length + 1 = (pending ++ [frame]).length by simp] at counts
  exact ⟨final, next, ends, joined, counts, active, underway.inStep, underway.framing⟩

theorem begins (underway : pairing.Underway count pending session input output) :
    (output.beginRead output.layer.frameSize).value.1.lifecycle.state = .active := by
  rw [OutputStream.beginRead_fresh underway.inStep.toReceiving pairing.receiving_pos]
  exact underway.inStep.active

theorem read (now : Nat) (underway : pairing.Underway count (frame :: pending) session input output)
    (exact : frame.length = pairing.sending.layer.frameSize)
    (plain : ¬ pairing.configuration.Imitates count frame) :
    ∃ final next, Session.process.Ends now (Session.Turn.read.start session) now final
        (.ok (.frame frame)) ∧
      pairing.Underway (count + 1) pending final input next := by
  obtain ⟨next, run, inStep⟩ := OutputStream.reads_image underway.inStep underway.framing
    pairing.padsFrames_eq pairing.receiving_pos (exact.trans pairing.frameSize_eq.symm) plain
  obtain ⟨final, ends, joined⟩ := Joined.read now run underway.begins underway.joined
  have counts := underway.counts
  rw [List.length_cons, ← Nat.add_assoc, Nat.add_right_comm] at counts
  have same := inStep.configuration_eq
  exact ⟨final, next, ends, joined, counts, underway.active, same ▸ inStep,
    same ▸ underway.framing⟩

/-- The read of a frame that does imitate one fails, if there is nothing after it. -/
theorem read_imitation (now : Nat)
    (underway : pairing.Underway count [frame] session input output)
    (exact : frame.length = pairing.sending.layer.frameSize)
    (imitates : pairing.configuration.Imitates count frame) :
    ∃ later final error, Session.process.Ends now (Session.Turn.read.start session) later final
      (.error error) := by
  obtain ⟨last, point, run⟩ := OutputStream.reads_imitation underway.inStep underway.framing
    pairing.padsFrames_eq pairing.receiving_pos (exact.trans pairing.frameSize_eq.symm) imitates
  have joined := underway.joined
  rw [InputConfiguration.images, InputConfiguration.images, List.append_nil] at joined
  obtain ⟨later, final, ends⟩ := Joined.read_timeout now run underway.begins joined
  exact ⟨later, final, _, ends⟩

theorem plays (now : Nat) (queue : Session.Queue pending turns replies left)
    (underway : pairing.Underway count pending session input output)
    (sized : ∀ frame ∈ pending ++ Session.written turns,
      frame.length = pairing.sending.layer.frameSize)
    (plain : ∀ index frame, (pending ++ Session.written turns)[index]? = some frame →
      ¬ pairing.configuration.Imitates (count + index) frame) :
    ∃ final reached sender receiver,
      Session.Plays now session turns (replies.map .ok) now final ∧
      pairing.Underway reached left final sender receiver ∧
      reached + left.length = count + (pending ++ Session.written turns).length := by
  induction queue generalizing count session input output with
  | nil =>
    refine ⟨session, count, input, output, .done, underway, ?_⟩
    rw [Session.written, List.filterMap_nil, List.append_nil]
  | @write pending frame turns replies left queue ih =>
    have next : pending ++ Session.written (.write frame :: turns) =
        pending ++ [frame] ++ Session.written turns := by
      rw [List.append_assoc]
      rfl
    rw [next] at sized plain ⊢
    obtain ⟨between, sender, ends, underway⟩ :=
      underway.write now (sized frame (by simp))
    obtain ⟨final, reached, sender, receiver, plays, underway, total⟩ := ih underway sized plain
    exact ⟨final, reached, sender, receiver, .turn ends plays, underway, total⟩
  | @read pending turns replies left frame queue ih =>
    have ⟨exact, sized⟩ := List.forall_mem_cons.mp sized
    obtain ⟨between, receiver, ends, underway⟩ :=
      underway.read now exact (plain 0 frame rfl)
    obtain ⟨final, reached, sender, receiver, plays, underway, total⟩ :=
      ih underway sized fun index later found => by
        have := plain (index + 1) later found
        rwa [Nat.add_right_comm, Nat.add_assoc]
    refine ⟨final, reached, sender, receiver, .turn ends plays, underway, ?_⟩
    rw [total]
    exact Nat.add_right_comm _ _ _

end Underway

/-- The turns reply what a queue replies, and once nothing is left both streams are in step. -/
def Delivers (pairing : Pairing) (turns : List Session.Turn) (replies : List Reply)
    (left : List Bytes) : Prop :=
  ∃ last final, Session.Plays pairing.now pairing.session turns (replies.map .ok) last final ∧
    (left = [] → ∃ side, final.output? = some side ∧
      side.stream.CaughtUp pairing.configuration (Session.written turns).length)

/-- Frames of which none imitates a marked one are delivered, however reads and writes follow. -/
theorem delivers (pairing : Pairing) (queue : Session.Queue [] turns replies left)
    (sized : ∀ frame ∈ Session.written turns, frame.length = pairing.sending.layer.frameSize)
    (plain : ∀ position frame, (Session.written turns)[position]? = some frame →
      ¬ pairing.configuration.Imitates position frame) :
    pairing.Delivers turns replies left := by
  obtain ⟨input, output, underway⟩ := pairing.underway
  obtain ⟨final, reached, sender, receiver, plays, underway, total⟩ :=
    underway.plays pairing.now queue (by simpa using sized) (by simpa using plain)
  refine ⟨pairing.now, final, plays, ?_⟩
  rintro rfl
  refine ⟨_, underway.joined.output_eq, ?_⟩
  rw [List.nil_append, List.length_nil, Nat.add_zero, Nat.zero_add] at total
  exact total ▸ underway.caughtUp

theorem delivers_of_uniform (pairing : Pairing)
    (uniform : pairing.configuration.syncEnabled = true → pairing.configuration.framesPerSync = 1)
    (queue : Session.Queue [] turns replies left)
    (sized : ∀ frame ∈ Session.written turns, frame.length = pairing.sending.layer.frameSize) :
    pairing.Delivers turns replies left :=
  pairing.delivers queue sized fun position _ _ ⟨enabled, unmarked, _⟩ => by
    rw [InputConfiguration.marks_of_every enabled (uniform enabled)] at unmarked
    cases unmarked

/-- The first frame that imitates a marked one is not delivered, if it is read at once. -/
theorem not_delivers (pairing : Pairing) {earlier : List Bytes}
    (sized : ∀ frame ∈ earlier, frame.length = pairing.sending.layer.frameSize)
    (plain : ∀ position frame, earlier[position]? = some frame →
      ¬ pairing.configuration.Imitates position frame)
    (exact : frame.length = pairing.sending.layer.frameSize)
    (imitates : pairing.configuration.Imitates earlier.length frame) (later left : List Bytes) :
    ¬ pairing.Delivers (Session.promptTurns (earlier ++ frame :: later))
      (Session.promptReplies (earlier ++ frame :: later)) left := by
  rintro ⟨last, final, plays, _⟩
  obtain ⟨input, output, underway⟩ := pairing.underway
  have written := Session.written_prompt earlier
  obtain ⟨between, count, sender, receiver, prompt, underway, total⟩ :=
    underway.plays pairing.now (Session.Queue.prompt earlier)
      (by simpa [written] using sized) (by simpa [written] using plain)
  rw [List.nil_append, written, List.length_nil, Nat.add_zero, Nat.zero_add] at total
  rw [← total] at imitates
  rw [Session.promptTurns, Session.promptReplies, List.flatMap_append, List.flatMap_append] at plays
  obtain ⟨_, results, _, _, split, first, rest⟩ := plays.prefix_of_append
  obtain ⟨rfl, rfl, rfl⟩ := prompt.unique first
  rw [List.map_append, Session.promptReplies, List.append_cancel_left_eq] at split
  rw [← split] at rest
  -- The run goes on with the write of the frame and the read that is to return it.
  obtain ⟨_, _, ends, underway⟩ := underway.write pairing.now exact
  obtain ⟨_, _, _, fails⟩ := underway.read_imitation pairing.now exact imitates
  cases rest with
  | turn wrote rest =>
    obtain ⟨rfl, rfl, _⟩ := ends.unique wrote
    cases rest with
    | turn found rest =>
      obtain ⟨_, _, same⟩ := fails.unique found
      cases same

private def everySecondInput : InputRequest where
  layer := ⟨"in", .hostToDevice, 8, 1⟩
  checkedLayer := ⟨"in", .hostToDevice, 8, 1⟩
  parameters := { syncEnabled := true, framesPerSync := 2, maximumPayload := 16 }

private def everySecondOutput : OutputRequest where
  layer := ⟨"out", .deviceToHost, 8, 1⟩
  checkedLayer := ⟨"out", .deviceToHost, 8, 1⟩
  parameters := { syncEnabled := true, maximumPayload := 16 }

private theorem exists_everySecond :
    ∃ pairing : Pairing, pairing.sending.layer.frameSize = 8 ∧
      pairing.configuration.syncEnabled = true ∧ pairing.configuration.framesPerSync = 2 ∧
      pairing.configuration.markerSize = 8 :=
  ⟨{
    pathLimit := 1472, shaper := ⟨false, fun _ => none⟩, host := .loopback
    sending := everySecondInput, receiving := everySecondOutput
    configuration := _, configured := rfl, payload_eq := rfl, sync_eq := rfl, marker_eq := rfl
    unpadded := rfl, unlimited := rfl, frameSize_eq := rfl, frameSize_pos := by decide
    half := _, half_added := rfl, made := _, made_added := rfl
    begun := 0, inputBatch := 1, outputBatch := 1, inputActivated := rfl, outputActivated := rfl },
    rfl, rfl, rfl, rfl⟩

/-- Joined streams deliver some frames under every interleaving exactly if none of the frames is
sent without a marker and opens like one. -/
theorem round_trip_iff (pairing : Pairing) {frames : List Bytes}
    (sized : ∀ frame ∈ frames, frame.length = pairing.sending.layer.frameSize) :
    (∀ turns replies left, Session.written turns = frames →
        Session.Queue [] turns replies left → pairing.Delivers turns replies left) ↔
      ∀ position frame, frames[position]? = some frame →
        ¬ pairing.configuration.Imitates position frame := by
  constructor
  · intro delivers position
    -- The first such frame fails the run in which it is read at once.
    induction position using Nat.strongRecOn with
    | ind position ih =>
      intro frame found imitates
      obtain ⟨small, rfl⟩ := List.getElem?_eq_some_iff.mp found
      have earlier : (frames.take position).length = position :=
        List.length_take_of_le (Nat.le_of_lt small)
      have split : frames =
          frames.take position ++ frames[position] :: frames.drop (position + 1) := by
        rw [← List.drop_eq_getElem_cons small, List.take_append_drop]
      have delivered := delivers _ _ [] (Session.written_prompt frames) (.prompt frames)
      rw [split] at delivered
      refine pairing.not_delivers ?_ ?_ (sized _ (List.getElem_mem small))
        (earlier.symm ▸ imitates) _ _ delivered
      · intro frame member
        exact sized frame (List.mem_of_mem_take member)
      · intro index frame present
        rw [List.getElem?_take] at present
        split at present
        · exact ih index ‹_› frame present
        · cases present
  · rintro plain turns replies left rfl queue
    exact pairing.delivers queue sized plain

theorem round_trip_of_two_frames :
    ∃ pairing : Pairing, pairing.sending.layer.frameSize = 8 ∧
      pairing.configuration.syncEnabled = true ∧ pairing.configuration.framesPerSync = 2 ∧
      pairing.Delivers
        [.write [1, 2, 3, 4, 5, 6, 7, 8], .write [9, 10, 11, 12, 13, 14, 15, 16], .read, .read]
        [.done, .done, .frame [1, 2, 3, 4, 5, 6, 7, 8], .frame [9, 10, 11, 12, 13, 14, 15, 16]]
        [] := by
  obtain ⟨pairing, size, enabled, cadence, marker⟩ := exists_everySecond
  refine ⟨pairing, size, enabled, cadence, ?_⟩
  refine (round_trip_iff pairing ?_).mpr ?_ _ _ _ rfl (.write (.write (.read (.read .nil))))
  · rw [size]
    exact List.forall_mem_cons.mpr ⟨rfl, List.forall_mem_singleton.mpr rfl⟩
  · intro position frame found
    rw [InputConfiguration.Imitates, InputConfiguration.marks, enabled, cadence, marker]
    rcases position with _ | _ | position
    · cases found
      decide
    · cases found
      decide
    · cases found

/-- The second frame is sent as it is, without a marker; its own bytes are taken for one, and the
read waits for a frame in vain. -/
theorem round_trip_loses_imitation :
    ∃ pairing : Pairing, pairing.sending.layer.frameSize = 8 ∧
      pairing.configuration.syncEnabled = true ∧ pairing.configuration.framesPerSync = 2 ∧
      ¬ pairing.Delivers
        [.write [1, 2, 3, 4, 5, 6, 7, 8], .read,
          .write [0x5A, 0x5A, 0xA5, 0xA5, 0, 0, 0, 7], .read]
        [.done, .frame [1, 2, 3, 4, 5, 6, 7, 8], .done,
          .frame [0x5A, 0x5A, 0xA5, 0xA5, 0, 0, 0, 7]] [] := by
  obtain ⟨pairing, size, enabled, cadence, marker⟩ := exists_everySecond
  refine ⟨pairing, size, enabled, cadence, ?_⟩
  have sized : ∀ frame ∈ ([[1, 2, 3, 4, 5, 6, 7, 8]] : List Bytes),
      frame.length = pairing.sending.layer.frameSize :=
    List.forall_mem_singleton.mpr size.symm
  have exact : ([0x5A, 0x5A, 0xA5, 0xA5, 0, 0, 0, 7] : Bytes).length =
      pairing.sending.layer.frameSize := size.symm
  refine pairing.not_delivers sized ?_ exact ?_ [] []
  · intro position frame found
    rw [InputConfiguration.Imitates, InputConfiguration.marks, enabled, cadence, marker]
    rcases position with _ | position
    · cases found
      decide
    · cases found
  · rw [InputConfiguration.Imitates, InputConfiguration.marks, enabled, cadence, marker]
    decide

end Pairing

end FrameStream
