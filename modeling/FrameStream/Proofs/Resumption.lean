import FrameStream.Proofs.Retention
import FrameStream.Proofs.Transit

/-!
Reads that are interrupted and the reads after them, when nothing is lost on the way. An interrupted
read forgets what it holds of its frame and the stream does not hunt, so the next frame starts with
the payload at hand. Before a read has anything of its frame that is where the frame starts; later
it is in the middle of it, and the next frame is a piece of one followed by a piece of another.
-/

namespace FrameStream

/-- Frames behind markers, all of whose later payloads carry data. -/
structure Marked {configuration : OutputConfiguration} {frameSize : Nat}
    (frames : List (MarkedFrame configuration frameSize)) : Prop where
  enabled : configuration.syncEnabled = true
  solid : ∀ frame ∈ frames, ∀ payload ∈ frame.tail, payload ≠ []

/-- Payloads that carry whole frames; where sync is enabled each frame is behind a marker. -/
inductive Conveys (configuration : OutputConfiguration) (frameSize : Nat) :
    List Bytes → List Bytes → Prop where
  | plain : configuration.syncEnabled = false → (∀ frame ∈ frames, frame.length = frameSize) →
      payloads.flatten = frames.flatten → Conveys configuration frameSize payloads frames
  | marked {frames : List (MarkedFrame configuration frameSize)} : Marked frames →
      Conveys configuration frameSize (frames.flatMap MarkedFrame.payloads)
        (frames.map MarkedFrame.data)

/-- Payloads that complete what is held of a frame, if it is one, and carry whole frames then. -/
inductive Pending (configuration : OutputConfiguration) (frameSize : Nat) (looks : Bool)
    (held : Bytes) : List Bytes → List Bytes → Prop where
  | plain : configuration.syncEnabled = false → (∀ frame ∈ frames, frame.length = frameSize) →
      held ++ payloads.flatten = frames.flatten →
      Pending configuration frameSize looks held payloads frames
  | opening {frames : List (MarkedFrame configuration frameSize)} : Marked frames →
      looks = true → held = [] →
      Pending configuration frameSize looks held (frames.flatMap MarkedFrame.payloads)
        (frames.map MarkedFrame.data)
  | rest {frames : List (MarkedFrame configuration frameSize)} : Marked frames →
      (∀ payload ∈ part, payload ≠ []) → (held ++ part.flatten).length = frameSize →
      (looks = true →
        SyncMarker.decode? (part.headD []) configuration.markerSize = none) →
      Pending configuration frameSize looks held (part ++ frames.flatMap MarkedFrame.payloads)
        ((held ++ part.flatten) :: frames.map MarkedFrame.data)

theorem Conveys.pending {configuration : OutputConfiguration} {payloads frames : List Bytes}
    (conveys : Conveys configuration frameSize payloads frames) :
    Pending configuration frameSize true [] payloads frames := by
  cases conveys with
  | plain disabled sized whole => exact .plain disabled sized whole
  | marked marked => exact .opening marked rfl rfl

namespace Pending

variable {configuration : OutputConfiguration} {frameSize : Nat} {looks : Bool} {held : Bytes}
  {payloads frames : List Bytes}

theorem receive (pending : Pending configuration frameSize looks held (payload :: payloads) frames)
    (room : held.length < frameSize) :
    Pending configuration frameSize false (held ++ configuration.dataOf looks payload) payloads
      frames := by
  generalize given : payload :: payloads = all at pending
  cases pending with
  | plain disabled sized whole =>
    subst given
    rw [List.flatten_cons, ← List.append_assoc] at whole
    rw [configuration.dataOf_eq_self fun enabled => by simp [disabled] at enabled]
    exact .plain disabled sized whole
  | @opening marked behind looking nothing =>
    cases marked with
    | nil => cases given
    | cons first marked =>
      obtain ⟨rfl, rfl⟩ := List.cons.inj given
      obtain ⟨enabled, solid⟩ := behind
      obtain ⟨tail, solid⟩ := List.forall_mem_cons.mp solid
      obtain ⟨marker, decoded, opened⟩ := first.decode?_opening
      have data : configuration.dataOf looks (first.header ++ first.head) = first.head := by
        simp [OutputConfiguration.dataOf, enabled, looking, decoded, opened]
      rw [data, nothing]
      exact .rest ⟨enabled, solid⟩ tail first.length_data_eq (absurd · Bool.false_ne_true)
  | @rest part _ behind filled whole plain =>
    cases part with
    | nil =>
      rw [List.flatten_nil, List.append_nil] at whole
      exact absurd whole (Nat.ne_of_lt room)
    | cons first part =>
      obtain ⟨rfl, rfl⟩ := List.cons.inj given
      rw [List.flatten_cons, ← List.append_assoc] at whole ⊢
      have data : configuration.dataOf looks payload = payload :=
        OutputConfiguration.dataOf_eq_self fun _ => plain
      rw [data]
      exact .rest behind (List.forall_mem_cons.mp filled).2 whole (absurd · Bool.false_ne_true)

open OutputStream in
/-- What was gathered for a frame is either held or returned. -/
theorem gather {origin : OutputStream} (taken? : Option Bytes)
    (pending : Pending origin.configuration origin.layer.frameSize (!started) bytes payloads frames)
    (positive : 0 < origin.layer.frameSize) (gathers : Gathers origin bytes started state) :
    let next := Consequence.ofRead taken? state
    ∃ left, (next.reply?.bind frame?).toList ++ left = frames ∧
      Pending origin.configuration origin.layer.frameSize (next.task.looks next.stream)
        (next.task.held next.stream) payloads left := by
  cases gathers with
  | short short => exact ⟨frames, rfl, pending⟩
  | whole enough =>
    cases pending with
    | plain disabled sized whole =>
      cases frames with
      | nil =>
        have nothing := (List.append_eq_nil_iff.mp whole).1
        rw [nothing, List.length_nil] at enough
        omega
      | cons first frames =>
        obtain ⟨exact, sized⟩ := List.forall_mem_cons.mp sized
        have frame : bytes.take origin.layer.frameSize = first := by
          have split := congrArg (List.take origin.layer.frameSize) whole
          rwa [List.take_append_of_le_length enough, List.flatten_cons, List.take_left' exact]
            at split
        have later : bytes.drop origin.layer.frameSize ++ payloads.flatten = frames.flatten := by
          have split := congrArg (List.drop origin.layer.frameSize) whole
          rwa [List.drop_append_of_le_length enough, List.flatten_cons, List.drop_left' exact]
            at split
        exact ⟨frames, congrArg (· :: frames) frame, .plain disabled sized later⟩
    | opening _ _ nothing =>
      rw [nothing, List.length_nil] at enough
      omega
    | @rest part marked behind filled whole =>
      rw [List.length_append] at whole
      have none : part = [] := by
        cases part with
        | nil => rfl
        | cons payload part =>
          have some := List.length_pos_iff.mpr (filled payload List.mem_cons_self)
          rw [List.flatten_cons, List.length_append] at whole
          omega
      subst none
      have exact : bytes.length ≤ origin.layer.frameSize := by omega
      refine ⟨marked.map MarkedFrame.data, ?_, ?_⟩
      · simp [Consequence.ofRead, frame?, Except.map, List.take_of_length_le exact]
      · exact .opening behind (by simp [Consequence.ofRead, Task.looks, exact])
          (List.drop_of_length_le exact)

/-- What is held and what comes next start with a frame; a marker that the next payload seems to
open with lies in what the frame still lacks. -/
theorem exists_frame (pending : Pending configuration frameSize false held payloads frames)
    (room : held.length < frameSize) (more : payloads.flatten ≠ []) :
    ∃ frame left following, frames = frame :: left ∧ frame.length = frameSize ∧
      held ++ payloads.flatten = frame ++ following ∧
      held.length + configuration.openingSize payloads ≤ frameSize := by
  cases pending with
  | plain disabled sized whole =>
    cases frames with
    | nil => exact absurd (List.append_eq_nil_iff.mp whole).2 more
    | cons frame left =>
      have none : configuration.openingSize payloads = 0 :=
        if_neg (by simp [disabled])
      exact ⟨frame, left, left.flatten, rfl, sized frame List.mem_cons_self, whole, by omega⟩
  | opening _ looking => cases looking
  | @rest part marked _ _ whole =>
    refine ⟨_, _, (marked.flatMap MarkedFrame.payloads).flatten, rfl, whole, by simp, ?_⟩
    cases part with
    | nil =>
      rw [List.flatten_nil, List.append_nil] at whole
      exact absurd whole (Nat.ne_of_lt room)
    | cons payload part =>
      have opening : configuration.openingSize
          (payload :: part ++ marked.flatMap MarkedFrame.payloads) ≤ payload.length :=
        OutputConfiguration.openingSize_le
      simp only [List.length_append, List.flatten_cons] at whole
      omega

end Pending

namespace OutputStream

variable {stream : OutputStream}

/-- The bytes of a frame that are gone when a task is interrupted: what a read holds of it, and what
will be taken for a marker though the frame had started. -/
def skips (stream : OutputStream) (payloads : List Bytes) : Task → Nat
  | .reading (.assembling held true) => held.length + stream.configuration.openingSize payloads
  | _ => 0

/-- A stream that will return these frames from these payloads. -/
structure Intact (stream : OutputStream) (task : Task) (payloads frames : List Bytes) : Prop
    extends Keeps stream task where
  pending : Pending stream.configuration stream.layer.frameSize (task.looks stream)
    (task.held stream) payloads frames

theorem Intact.interrupt (intact : Intact stream (.reading point) payloads frames)
    (positive : 0 < stream.layer.frameSize)
    (spared : stream.skips payloads (.reading point) = 0) :
    Intact stream .idle payloads frames := by
  obtain ⟨⟨steady, aligned, keeping⟩, pending⟩ := intact
  refine ⟨⟨steady.rest, aligned, trivial⟩, ?_⟩
  cases steady.suits with
  | hunting => exact absurd keeping id
  | @assembling started filled nothing _ _ begun =>
    change Pending _ _ stream.leftover.isEmpty stream.leftover payloads frames
    rw [nothing]
    cases started with
    | false =>
      obtain rfl := begun rfl
      exact pending
    | true =>
      obtain ⟨held, unmarked⟩ := Nat.add_eq_zero_iff.mp spared
      obtain rfl := List.eq_nil_of_length_eq_zero held
      cases pending with
      | plain disabled sized whole => exact .plain disabled sized whole
      | opening _ looking => cases looking
      | @rest part _ behind filled whole =>
        refine .rest behind filled whole fun _ => ?_
        cases part with
        | nil => exact absurd whole (Nat.ne_of_lt positive)
        | cons first part =>
          cases decoded : SyncMarker.decode? first stream.configuration.markerSize with
          | none => exact decoded
          | some marker =>
            have least := stream.configuration.marker_min behind.enabled
            rw [SyncMarker.minimumSize] at least
            simp [OutputConfiguration.openingSize, behind.enabled, decoded] at unmarked
            omega

theorem Intact.respond (intact : Intact stream task (next.taken?.toList ++ payloads) frames)
    (positive : 0 < stream.layer.frameSize) (responds : Responds stream task incident next)
    (lossless : incident.IsLossless stream)
    (spared : Interrupts stream task incident →
      stream.skips (next.taken?.toList ++ payloads) task = 0) :
    ∃ left, (next.reply?.bind frame?).toList ++ left = frames ∧
      Intact next.stream next.task payloads left := by
  obtain ⟨keeps, alike⟩ := responds.keeps intact.toKeeps lossless
  obtain ⟨-, pending⟩ := id intact
  suffices step : ∃ left, (next.reply?.bind frame?).toList ++ left = frames ∧
      Pending stream.configuration stream.layer.frameSize (next.task.looks next.stream)
        (next.task.held next.stream) payloads left by
    obtain ⟨left, returned, pending⟩ := step
    rw [← alike.layer, ← alike.configuration] at pending
    exact ⟨left, returned, keeps, pending⟩
  cases responds.moves intact.toKeeps lossless with
  | calm silent quiet _ _ held looks =>
    rw [silent] at pending
    rw [held, looks]
    exact ⟨frames, by rw [quiet]; rfl, pending⟩
  | starts gathers =>
    rw [(gathers.unchanged none).1] at pending
    refine Pending.gather none ?_ positive gathers
    rw [Bool.not_not]
    exact pending
  | takes same gathers =>
    rw [(gathers.unchanged _).1] at pending
    cases intact.steady.suits with
    | assembling _ _ room =>
      rw [← same.layer] at room pending positive ⊢
      rw [← same.configuration] at pending gathers ⊢
      have received : Pending _ _ (!true) _ _ _ := pending.receive room
      exact received.gather _ positive gathers
  | interrupted interrupts =>
    exact ⟨frames, rfl, (intact.interrupt positive (spared interrupts)).pending⟩

/-- Whenever a read is interrupted in the course of these incidents, that skips none of the payloads
that are on their way. -/
def Spares (payloads : List Bytes) : OutputStream → Task → List Incident → Prop :=
  Throughout fun taken stream task incident =>
    Interrupts stream task incident → stream.skips (payloads.drop taken.length) task = 0

theorem filterMap_reply (reply? : Option (Except StreamError Reply))
    (replies : List (Except StreamError Reply)) :
    (reply?.toList ++ replies).filterMap frame? =
      (reply?.bind frame?).toList ++ replies.filterMap frame? := by
  rw [List.filterMap_append]
  congr 1
  cases reply? with
  | none => rfl
  | some reply =>
    rw [Option.toList_some, List.filterMap_cons, List.filterMap_nil, Option.bind_some]
    cases frame? reply <;> rfl

/-- As long as nothing is lost or skipped, the frames return one after another. -/
theorem Intact.run (run : Runs stream task incidents taken replies last final)
    (intact : Intact stream task (taken ++ payloads) frames)
    (positive : 0 < stream.layer.frameSize) (lossless : Lossless stream task incidents)
    (spares : Spares (taken ++ payloads) stream task incidents) :
    ∃ left, replies.filterMap frame? ++ left = frames ∧ Intact last final payloads left := by
  induction run generalizing frames with
  | done => exact ⟨frames, rfl, intact⟩
  | @step stream task incident next incidents taken replies last final responds _ ih =>
    rw [List.append_assoc] at intact spares
    have ⟨_, alike⟩ := responds.keeps intact.toKeeps lossless.head
    obtain ⟨left, returned, intact⟩ :=
      intact.respond positive responds lossless.head spares.head
    have spares : Spares (taken ++ payloads) next.stream next.task incidents := by
      have spares := spares.tail responds
      simp only [List.length_append, ← List.drop_drop, List.drop_left] at spares
      exact spares
    obtain ⟨left, later, intact⟩ :=
      ih intact (alike.layer ▸ positive) (lossless.tail responds) spares
    refine ⟨left, ?_, intact⟩
    rw [filterMap_reply, List.append_assoc, later, returned]

/-- A task is interrupted, and later the stream is idle; nothing was taken meanwhile. -/
inductive Resumes (stream : OutputStream) (task : Task) (resumed : OutputStream) : Prop where
  | intro : Interrupts stream task incident → Responds stream task incident next →
      Runs next.stream next.task incidents [] replies resumed .idle →
      Lossless next.stream next.task incidents → Resumes stream task resumed

inductive Rereads (stream : OutputStream) (taken : List Bytes) (frame : Bytes) : Prop where
  | intro : Runs stream .idle incidents taken [.ok (.frame frame)] last .idle →
      Lossless stream .idle incidents → Rereads stream taken frame

/-- An interruption leaves nothing of the frame behind. -/
theorem Resumes.keeps (resumes : Resumes stream (.reading point) resumed)
    (keeps : Keeps stream (.reading point)) :
    Keeps resumed .idle ∧ resumed.leftover = [] ∧ Alike resumed stream := by
  cases resumes with
  | intro interrupts responds run lossless =>
    obtain ⟨error, rfl⟩ := interrupts.refuses responds
    have idle : Keeps stream .idle := ⟨keeps.steady.rest, keeps.aligned, trivial⟩
    obtain ⟨kept, alike⟩ := run.keeps idle lossless
    have nothing : stream.leftover = [] := by
      cases keeps.steady.suits with
      | hunting nothing | assembling nothing => exact nothing
    obtain ⟨before, split, -⟩ := run.inOrder idle.steady
    change stream.leftover ++ [] = before ++ resumed.leftover at split
    rw [nothing] at split
    exact ⟨kept, (List.append_eq_nil_iff.mp split.symm).2, alike⟩

/-- The next frame after an interruption that skips bytes starts so much later: it is the rest of
one frame and the start of what follows. -/
theorem Intact.reread (intact : Intact stream (.reading (.assembling held true)) remaining frames)
    (positive : 0 < stream.layer.frameSize)
    (resumes : Resumes stream (.reading (.assembling held true)) resumed)
    (rereads : Rereads resumed taken bytes) (arrived : taken <+: remaining) :
    ∃ frame left following, frames = frame :: left ∧
      held ++ remaining.flatten = frame ++ following ∧
      let skipped := stream.skips remaining (.reading (.assembling held true))
      bytes = frame.drop skipped ++ following.take skipped := by
  obtain ⟨keeps, nothing, alike⟩ := resumes.keeps intact.toKeeps
  cases rereads with
  | intro run lossless =>
    obtain ⟨first, sized⟩ := run.returns rfl keeps lossless
    rw [alike.layer] at sized
    change bytes <+: resumed.leftover ++ resumed.configuration.data resumed.leftover.isEmpty _
      at first
    rw [nothing, alike.configuration, List.isEmpty_nil, List.nil_append] at first
    have first := first.trans (OutputConfiguration.data_prefix arrived)
    rw [OutputConfiguration.data_looked] at first
    have more : remaining.flatten ≠ [] := by
      intro none
      rw [none, List.drop_nil, List.prefix_nil] at first
      rw [first, List.length_nil] at sized
      omega
    cases intact.steady.suits with
    | assembling _ _ room =>
      have pending : Pending _ _ false held remaining frames := intact.pending
      obtain ⟨frame, left, following, split, full, whole, opening⟩ :=
        pending.exists_frame room more
      refine ⟨frame, left, following, split, whole, ?_⟩
      change bytes = frame.drop (held.length + stream.configuration.openingSize remaining) ++
        following.take (held.length + stream.configuration.openingSize remaining)
      generalize stream.configuration.openingSize remaining = opened at first opening ⊢
      calc bytes
        _ = (remaining.flatten.drop opened).take stream.layer.frameSize := by
          rw [← sized]
          exact List.prefix_iff_eq_take.mp first
        _ = ((frame ++ following).drop (held.length + opened)).take frame.length := by
          rw [← whole, List.drop_length_add_append, full]
        _ = frame.drop (held.length + opened) ++ following.take (held.length + opened) := by
          have within : held.length + opened ≤ frame.length := full ▸ opening
          rw [List.drop_append_of_le_length within, List.take_append, List.length_drop,
            List.take_of_length_le (by rw [List.length_drop]; omega), Nat.sub_sub_self within]

theorem intact_of_conveys
    (conveys : Conveys stream.configuration stream.layer.frameSize payloads frames)
    (nothing : stream.leftover = []) (aligned : stream.isHunting = false) :
    Intact stream .idle payloads frames := by
  have bounded : stream.leftover.length < stream.configuration.maximumPayload := by
    rw [nothing]
    exact stream.configuration.payload_pos
  refine ⟨⟨⟨bounded, by simp [aligned], fun _ => nothing, .idle⟩, aligned, trivial⟩, ?_⟩
  change Pending _ _ stream.leftover.isEmpty stream.leftover payloads frames
  rw [nothing]
  exact conveys.pending

private def relayed : OutputConfiguration :=
  (OutputConfiguration.ofParameters { maximumPayload := 12, syncEnabled := true }
    ⟨"edge", .deviceToHost, 4, 1⟩).toOption.get rfl

private def relayStream (isActivated : Bool) (leftover : Bytes) (lastIndex : UInt32) :
    OutputStream :=
  { layer := ⟨"edge", .deviceToHost, 4, 1⟩, configuration := relayed,
    lifecycle := { name := "edge", isActivated }, timeout := defaultTimeout, batchSize := 1,
    leftover, lastIndex }

private def relayFrame (index : UInt32) (head tail : UInt8 × UInt8) : MarkedFrame relayed 4 :=
  .numbered relayed rfl index [head.1, head.2] [[tail.1, tail.2]]
    ⟨Nat.le_of_ble_eq_true rfl, List.forall_mem_singleton.mpr (Nat.le_of_ble_eq_true rfl)⟩

private theorem relayFrame_solid :
    ∀ payload ∈ (relayFrame index head tail).tail, payload ≠ [] :=
  List.forall_mem_singleton.mpr (List.cons_ne_nil _ _)

private def relayFrames : List (MarkedFrame relayed 4) :=
  [relayFrame 0 (1, 2) (3, 4), relayFrame 1 (5, 6) (7, 8), relayFrame 2 (9, 10) (11, 12)]

private theorem relayFrames_convey :
    Conveys relayed 4 (relayFrames.flatMap MarkedFrame.payloads)
      [[1, 2, 3, 4], [5, 6, 7, 8], [9, 10, 11, 12]] := by
  refine .marked ⟨rfl, ?_⟩
  simp only [relayFrames, List.forall_mem_cons]
  exact ⟨relayFrame_solid, relayFrame_solid, relayFrame_solid, nofun⟩

/-- While payloads that carry whole frames arrive without loss, reads return these frames one after
another, however often they are interrupted, as long as that skips nothing. The first interruption
that skips bytes shifts the next frame by just as many: what the interrupted read held of its frame
is missing, and so is what is taken for a marker then. -/
theorem frames_after_interruption
    (conveys : Conveys stream.configuration stream.layer.frameSize payloads frames)
    (positive : 0 < stream.layer.frameSize) (nothing : stream.leftover = [])
    (aligned : stream.isHunting = false)
    (run : Runs stream .idle incidents taken replies last final)
    (split : taken ++ remaining = payloads) (lossless : Lossless stream .idle incidents)
    (spares : Spares payloads stream .idle incidents) :
    replies.filterMap frame? <+: frames ∧
      ∀ held resumed more bytes, final = .reading (.assembling held true) →
        Resumes last final resumed → Rereads resumed more bytes → more <+: remaining →
        ∃ frame following, replies.filterMap frame? ++ [frame] <+: frames ∧
          held ++ remaining.flatten = frame ++ following ∧
          bytes = frame.drop (last.skips remaining final) ++
            following.take (last.skips remaining final) := by
  subst split
  have start := intact_of_conveys conveys nothing aligned
  obtain ⟨left, returned, intact⟩ := start.run run positive lossless spares
  refine ⟨⟨left, returned⟩, ?_⟩
  rintro held resumed more bytes rfl resumes rereads arrived
  have ⟨_, alike⟩ := run.keeps start.toKeeps lossless
  obtain ⟨frame, left, following, rfl, whole, read⟩ :=
    intact.reread (alike.layer ▸ positive) resumes rereads arrived
  exact ⟨frame, following, ⟨left, by rw [← returned, List.append_assoc]; rfl⟩, whole, read⟩

/-- An abort before anything of the first frame was taken skips nothing. A deactivation in the
middle of the second frame skips the two bytes that were taken of it. -/
theorem frames_after_interruption_of_deactivated :
    ∃ (last resumed : OutputStream) (incidents : List Incident) (taken remaining more : List Bytes)
      (replies : List (Except StreamError Reply)) (frame following : Bytes),
      Runs (relayStream true [] SyncMarker.unobserved) .idle incidents taken replies last
          (.reading (.assembling [5, 6] true)) ∧
        Resumes last (.reading (.assembling [5, 6] true)) resumed ∧ more <+: remaining ∧
        Rereads resumed more [7, 8, 0x5A, 0x5A] ∧
        replies.filterMap frame? ++ [frame] <+: [[1, 2, 3, 4], [5, 6, 7, 8], [9, 10, 11, 12]] ∧
        [5, 6] ++ remaining.flatten = frame ++ following ∧
        [7, 8, 0x5A, 0x5A] = frame.drop 2 ++ following.take 2 := by
  have aborted : Runs (relayStream true [] SyncMarker.unobserved) .idle
      [.read 4, .signal .abort, .receive (.ok []), .signal .clearAbort] [] [.error .aborted]
      (relayStream true [] SyncMarker.unobserved) .idle :=
    Runs.step Responds.read (Runs.step (Responds.signal _) (Runs.step Responds.receive
      (Runs.step (Responds.signal _) Runs.done)))
  have first : Runs (relayStream true [] SyncMarker.unobserved) .idle
      [.read 4, .receive (.ok (SyncMarker.encode ⟨0⟩ 8 ++ [1, 2])), .receive (.ok [3, 4])]
      [SyncMarker.encode ⟨0⟩ 8 ++ [1, 2], [3, 4]] [.ok (.frame [1, 2, 3, 4])]
      (relayStream true [] 0) .idle :=
    Runs.step Responds.read (Runs.step Responds.receive (Runs.step Responds.receive Runs.done))
  have begun : Runs (relayStream true [] 0) .idle
      [.read 4, .receive (.ok (SyncMarker.encode ⟨1⟩ 8 ++ [5, 6]))]
      [SyncMarker.encode ⟨1⟩ 8 ++ [5, 6]] [] (relayStream true [] 1)
      (.reading (.assembling [5, 6] true)) :=
    Runs.step Responds.read (Runs.step Responds.receive Runs.done)
  have deactivated : Runs (relayStream true [] 1) (.reading (.assembling [5, 6] true))
      [.signal .deactivate] [] [] (relayStream false [] 1) (.reading (.assembling [5, 6] true)) :=
    Runs.step (Responds.signal _) Runs.done
  have activated : Runs (relayStream false [] 1) .idle [.activate 0 true, .settle true] []
      [.ok .done] (relayStream true [] 1) .idle :=
    Runs.step (Responds.activate rfl) (Runs.step (Responds.activated rfl) Runs.done)
  have mixed : Runs (relayStream true [] 1) .idle
      [.read 4, .receive (.ok [7, 8]), .receive (.ok (SyncMarker.encode ⟨2⟩ 8 ++ [9, 10]))]
      [[7, 8], SyncMarker.encode ⟨2⟩ 8 ++ [9, 10]] [.ok (.frame [7, 8, 0x5A, 0x5A])]
      (relayStream true [0xA5, 0xA5, 0, 0, 0, 2, 9, 10] 1) .idle :=
    Runs.step Responds.read (Runs.step Responds.receive (Runs.step Responds.receive Runs.done))
  have resumes : Resumes (relayStream false [] 1) (.reading (.assembling [5, 6] true))
      (relayStream true [] 1) :=
    have interrupts : Interrupts (relayStream false [] 1) (.reading (.assembling [5, 6] true))
        (.receive (.ok [])) := .intro nofun
    .intro interrupts .receive activated (lossless_of_forall (by simp [Incident.IsLossless]))
  have rereads := Rereads.intro mixed (lossless_of_forall (by simp [Incident.IsLossless]))
  have run := aborted.append (first.append (begun.append deactivated))
  have arrived : [[7, 8], SyncMarker.encode ⟨2⟩ 8 ++ [9, 10]] <+:
      [[7, 8], SyncMarker.encode ⟨2⟩ 8 ++ [9, 10], [11, 12]] := ⟨[[11, 12]], rfl⟩
  have shifted := frames_after_interruption relayFrames_convey (by decide) rfl rfl run rfl
    (lossless_of_forall (by simp [Incident.IsLossless]))
  obtain ⟨frame, following, returned, whole, read⟩ := (shifted (by
    refine throughout_cons .read (fun _ => rfl) ?_
    refine throughout_cons (.signal _) (fun _ => rfl) ?_
    refine throughout_cons .receive (fun _ => rfl) ?_
    refine throughout_cons (.signal _) (fun _ => rfl) ?_
    refine throughout_cons .read (fun _ => rfl) ?_
    refine throughout_cons .receive (fun _ => rfl) ?_
    refine throughout_cons .receive (fun ⟨stopped⟩ => absurd rfl stopped) ?_
    refine throughout_cons .read (fun _ => rfl) ?_
    refine throughout_cons .receive (fun _ => rfl) ?_
    exact throughout_cons (.signal _) nofun throughout_nil)).2 _ _ _ _ rfl resumes rereads arrived
  exact ⟨_, _, _, _, _, _, _, frame, following, run, resumes, arrived, rereads, returned, whole,
    read⟩

/-- An abort after the first payload of a frame: the next read returns the end of that frame and the
start of the next marker. -/
theorem read_after_abort_mixes_frames :
    ∃ (stream last : OutputStream) (payloads taken : List Bytes) (incidents : List Incident)
      (replies : List (Except StreamError Reply)),
      Conveys stream.configuration stream.layer.frameSize payloads
          [[1, 2, 3, 4], [5, 6, 7, 8], [9, 10, 11, 12]] ∧
        stream.leftover = [] ∧ stream.isHunting = false ∧ Lossless stream .idle incidents ∧
        taken <+: payloads ∧ Runs stream .idle incidents taken replies last .idle ∧
        incidents = [.read 4, .receive (.ok (SyncMarker.encode ⟨0⟩ 8 ++ [1, 2])), .signal .abort,
          .receive (.ok []), .signal .clearAbort, .read 4, .receive (.ok [3, 4]),
          .receive (.ok (SyncMarker.encode ⟨1⟩ 8 ++ [5, 6]))] ∧
        replies = [.error .aborted, .ok (.frame [3, 4, 0x5A, 0x5A])] := by
  have begun : Runs (relayStream true [] SyncMarker.unobserved) .idle
      [.read 4, .receive (.ok (SyncMarker.encode ⟨0⟩ 8 ++ [1, 2]))]
      [SyncMarker.encode ⟨0⟩ 8 ++ [1, 2]] [] (relayStream true [] 0)
      (.reading (.assembling [1, 2] true)) :=
    Runs.step Responds.read (Runs.step Responds.receive Runs.done)
  have aborted : Runs (relayStream true [] 0) (.reading (.assembling [1, 2] true))
      [.signal .abort, .receive (.ok []), .signal .clearAbort] [] [.error .aborted]
      (relayStream true [] 0) .idle :=
    Runs.step (Responds.signal _) (Runs.step Responds.receive (Runs.step (Responds.signal _)
      Runs.done))
  have mixed : Runs (relayStream true [] 0) .idle
      [.read 4, .receive (.ok [3, 4]), .receive (.ok (SyncMarker.encode ⟨1⟩ 8 ++ [5, 6]))]
      [[3, 4], SyncMarker.encode ⟨1⟩ 8 ++ [5, 6]] [.ok (.frame [3, 4, 0x5A, 0x5A])]
      (relayStream true [0xA5, 0xA5, 0, 0, 0, 1, 5, 6] 0) .idle :=
    Runs.step Responds.read (Runs.step Responds.receive (Runs.step Responds.receive Runs.done))
  refine ⟨_, _, _, _, _, _, relayFrames_convey, rfl, rfl, lossless_of_forall ?_,
    ⟨[[7, 8], SyncMarker.encode ⟨2⟩ 8 ++ [9, 10], [11, 12]], rfl⟩,
    begun.append (aborted.append mixed), rfl, rfl⟩
  simp [Incident.IsLossless]

end OutputStream

end FrameStream
