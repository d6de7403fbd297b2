import FrameStream.Proofs.Operations
import FrameStream.Proofs.Transit

/-!
The count of gaps when frames are lost whole. A device numbers its frames, and the indices of its
markers wrap. A gap is counted at the first frame that arrives after a run of lost ones, however
long the run is as long as its indices do not come round, and nowhere else. Only an empty payload
can get in the way: behind a whole frame it starts the next one.
-/

namespace FrameStream

/-- A frame that a device sends, and whether it arrives. -/
structure Sending (configuration : OutputConfiguration) (frameSize : Nat) where
  frame : MarkedFrame configuration frameSize
  arrives : Bool

/-- What happens between a device and a stream: a receive fails, or a frame is sent, which arrives
whole or not at all. -/
inductive Occurrence (configuration : OutputConfiguration) (frameSize : Nat) where
  | pause (error : StreamError)
  | sent (sending : Sending configuration frameSize)

namespace Occurrence

variable {configuration : OutputConfiguration} {frameSize : Nat}

def sending? : Occurrence configuration frameSize → Option (Sending configuration frameSize)
  | pause _ => none
  | sent sending => some sending

def receipts : Occurrence configuration frameSize → List Receipt
  | pause error => [.error error]
  | sent ⟨frame, true⟩ => frame.payloads.map .ok
  | sent ⟨_, false⟩ => []

end Occurrence

/-- The device numbers its frames in order, from this number on; indices wrap. -/
def Sending.Numbered {configuration : OutputConfiguration} {frameSize : Nat}
    (sendings : List (Sending configuration frameSize)) (start : Nat) : Prop :=
  ∀ position sending, sendings[position]? = some sending →
    SyncMarker.decode? sending.frame.header configuration.markerSize =
      some ⟨UInt32.ofNat (start + position)⟩

theorem Sending.Numbered.tail {configuration : OutputConfiguration} {frameSize : Nat}
    {sending : Sending configuration frameSize} {sendings : List (Sending configuration frameSize)}
    {start : Nat} (numbered : Numbered (sending :: sendings) start) :
    Numbered sendings (start + 1) := by
  intro position later found
  rw [Nat.add_assoc, Nat.add_comm 1]
  exact numbered (position + 1) later found

section Courses

variable {configuration : OutputConfiguration} {frameSize : Nat}
  (course : List (Occurrence configuration frameSize))

def sendingsOf : List (Sending configuration frameSize) := course.filterMap Occurrence.sending?

def receiptsOf : List Receipt := course.flatMap Occurrence.receipts

/-- Which of the frames sent arrive. -/
def fatesOf : List Bool := (sendingsOf course).map Sending.arrives

theorem fatesOf_sent (sending : Sending configuration frameSize) :
    fatesOf (.sent sending :: course) = sending.arrives :: fatesOf course := rfl

end Courses

/-- After a frame that ends with an empty payload nothing more is received, unless a receive fails
first. -/
inductive Undisplaced {configuration : OutputConfiguration} {frameSize : Nat} :
    List (Occurrence configuration frameSize) → Prop where
  | nil : Undisplaced []
  | pause : Undisplaced course → Undisplaced (.pause error :: course)
  | sent {sending : Sending configuration frameSize} :
      (sending.arrives = true → sending.frame.tail.getLast? = some [] →
        ∀ payload, (receiptsOf course).head? ≠ some (.ok payload)) →
      Undisplaced course → Undisplaced (.sent sending :: course)

/-- The places at which a lost frame is followed by one that arrives: one for each run of lost
frames that does not go on to the end. -/
def lossRuns (fates : List Bool) : Nat := (fates.zip fates.tail).count (false, true)

/-- The positions of the frames that arrive, counted from the given one. -/
def arrivedAt (start : Nat) (fates : List Bool) : List Nat :=
  ((fates.zipIdx start).filter (·.1)).map (·.2)

/-- No run of lost frames takes the indices of markers all the way round. -/
def NeverRound (fates : List Bool) : Prop :=
  ∀ length, List.replicate length false <:+: fates → length < UInt32.size

theorem lossRuns_arrived (fates : List Bool) : lossRuns (true :: fates) = lossRuns fates := by
  cases fates with
  | nil => rfl
  | cons fate fates => simp [lossRuns]

theorem lossRuns_lost (fate : Bool) (fates : List Bool) :
    lossRuns (false :: fate :: fates) = lossRuns (fate :: fates) + fate.toNat := by
  cases fate <;> simp [lossRuns]

/-- A run of lost frames counts once, with the frame that arrives after it. -/
theorem lossRuns_run (missed : Nat) (fates : List Bool) :
    lossRuns (List.replicate missed false ++ true :: fates) =
      lossRuns fates + if missed = 0 then 0 else 1 := by
  induction missed with
  | zero => exact lossRuns_arrived fates
  | succ missed ih =>
    rw [List.replicate_succ, List.cons_append]
    cases missed with
    | zero =>
      rw [List.replicate_zero, List.nil_append, lossRuns_lost, lossRuns_arrived]
      rfl
    | succ missed =>
      rw [List.replicate_succ, List.cons_append] at ih ⊢
      rw [lossRuns_lost, ih]
      simp

example : lossRuns [false, true, false, false, true, false] = 2 := by decide

theorem lossRuns_replicate (missed : Nat) : lossRuns (List.replicate missed false) = 0 := by
  induction missed with
  | zero => rfl
  | succ missed ih =>
    cases missed with
    | zero => rfl
    | succ missed =>
      rw [List.replicate_succ] at ih ⊢
      rw [List.replicate_succ, lossRuns_lost, ← List.replicate_succ]
      exact ih

theorem arrivedAt_arrived (start : Nat) (fates : List Bool) :
    arrivedAt start (true :: fates) = start :: arrivedAt (start + 1) fates := by
  simp [arrivedAt]

theorem arrivedAt_lost (start : Nat) (fates : List Bool) :
    arrivedAt start (false :: fates) = arrivedAt (start + 1) fates := by
  simp [arrivedAt]

theorem NeverRound.of_short (short : fates.length < UInt32.size) : NeverRound fates := by
  intro length run
  have bounded := run.length_le
  rw [List.length_replicate] at bounded
  exact Nat.lt_of_le_of_lt bounded short

theorem NeverRound.lt (never : NeverRound (List.replicate missed false ++ fates)) :
    missed < UInt32.size :=
  never missed (List.prefix_append _ _).isInfix

theorem NeverRound.later (never : NeverRound (before ++ fate :: fates)) : NeverRound fates := by
  intro length run
  apply never
  refine run.trans ?_
  exact ((List.suffix_cons fate fates).trans (List.suffix_append before _)).isInfix

namespace OutputStream

variable {configuration : OutputConfiguration} {layer : Layer} {stream : OutputStream}

/-- A stream between frames, after so many frames of which the last few were lost. -/
structure Following (configuration : OutputConfiguration) (layer : Layer) (stream : OutputStream)
    (sent missed : Nat) : Prop where
  receiving : Receiving configuration layer stream
  aligned : stream.isHunting = false
  within : missed ≤ sent
  expects : SyncMarker.successor stream.lastIndex = UInt32.ofNat (sent - missed)

namespace Following

variable {sent missed : Nat} (following : Following configuration layer stream sent missed)
include following

theorem freshPoint_eq : stream.freshPoint = .assembling [] false := by
  simp [freshPoint, following.aligned]

theorem miss : Following configuration layer stream (sent + 1) (missed + 1) := by
  obtain ⟨receiving, aligned, within, expects⟩ := following
  refine ⟨receiving, aligned, Nat.succ_le_succ within, ?_⟩
  rwa [Nat.add_sub_add_right]

theorem observe :
    Following configuration layer (stream.observe (UInt32.ofNat sent)).value (sent + 1) 0 := by
  obtain ⟨receiving, aligned, _, _⟩ := following
  refine ⟨receiving.observe _, ?_, Nat.zero_le _, ?_⟩
  · rw [observe_isHunting, aligned]
  · rw [observe_lastIndex, SyncMarker.successor, Nat.sub_zero, UInt32.ofNat_add]
    rfl

/-- Fewer lost frames than there are indices always show. -/
theorem expected_iff (bounded : missed < UInt32.size) :
    UInt32.ofNat sent = SyncMarker.successor stream.lastIndex ↔ missed = 0 := by
  have within := following.within
  rw [following.expects, ← UInt32.toNat_inj]
  simp only [UInt32.toNat_ofNat', UInt32.size] at *
  omega

end Following

theorem Following.reads_pause (following : Following configuration layer stream sent missed)
    (positive : 0 < layer.frameSize) (started : Bool) (error : StreamError) :
    Reads (stream, .waiting (.assembling [] started)) [.error error] [.error error]
      (stream, .waiting (.assembling [] false)) := by
  have failed : (stream.received (.assembling [] started) (.error error)).value =
      (stream, .finished (.error error)) := by
    simp [received, loseFrame]
  have next := Reads.restart following.receiving positive (.error error)
  rw [following.freshPoint_eq] at next
  refine .receive ?_
  rw [show Except.map _ (Except.error error : Receipt) = Except.error error from rfl, failed]
  exact next

/-- Empty payloads between frames only start the next one. -/
theorem reads_nothing (receiving : Receiving configuration layer stream)
    (positive : 0 < layer.frameSize) {payloads : List Bytes}
    (empty : ∀ payload ∈ payloads, payload = []) (started : Bool) :
    Reads (stream, .waiting (.assembling [] started)) (payloads.map .ok) []
      (stream, .waiting (.assembling [] (started || !payloads.isEmpty))) := by
  induction payloads generalizing started with
  | nil =>
    rw [List.isEmpty_nil, Bool.not_true, Bool.or_false]
    exact .done
  | cons payload payloads ih =>
    have ⟨first, rest⟩ := List.forall_mem_cons.mp empty
    subst first
    have unmarked (looked : (configuration.syncEnabled && !started) = true) :
        SyncMarker.decode? [] configuration.markerSize = none := by
      have least := configuration.marker_min (Bool.and_eq_true_iff.mp looked).1
      exact SyncMarker.decode?_of_short (Nat.lt_of_lt_of_le (by decide) least)
    have short : ([] : Bytes).length < layer.frameSize := positive
    have room : ([] : Bytes).length + ([] : Bytes).length ≤ layer.frameSize := Nat.zero_le _
    have added := received_data receiving room unmarked
    rw [List.append_nil, settle_of_lt receiving true short] at added
    refine .receive_within receiving (Nat.zero_le _) ?_
    rw [added, List.isEmpty_cons, Bool.not_false, Bool.or_true]
    exact ih rest true

/-- The payloads that complete a frame, and the empty ones after them. -/
theorem exists_filling (payloads : List Bytes) :
    ∃ filling trailing, payloads = filling ++ trailing ∧ filling.getLast? ≠ some [] ∧
      ∀ payload ∈ trailing, payload = [] := by
  induction payloads with
  | nil => exact ⟨[], [], rfl, nofun, nofun⟩
  | cons payload payloads ih =>
    obtain ⟨filling, trailing, rfl, ends, empty⟩ := ih
    by_cases nothing : filling = [] ∧ payload = []
    · obtain ⟨rfl, rfl⟩ := nothing
      exact ⟨[], [] :: trailing, rfl, nofun, List.forall_mem_cons.mpr ⟨rfl, empty⟩⟩
    · refine ⟨payload :: filling, trailing, rfl, ?_, empty⟩
      intro last
      rw [List.getLast?_cons, Option.some_inj] at last
      cases final : filling.getLast? with
      | none =>
        rw [final, Option.getD_none] at last
        exact nothing ⟨List.getLast?_eq_none_iff.mp final, last⟩
      | some other =>
        rw [final, Option.getD_some] at last
        exact ends (final.trans (congrArg some last))

/-- A frame that arrives is returned, and all that it changes is due to its marker. Only an empty
payload at its end starts the next frame. -/
theorem Following.reads_frame (following : Following configuration layer stream sent missed)
    (positive : 0 < layer.frameSize) (enabled : configuration.syncEnabled = true)
    (frame : MarkedFrame configuration layer.frameSize)
    (decoded : SyncMarker.decode? frame.header configuration.markerSize =
      some ⟨UInt32.ofNat sent⟩) :
    ∃ started, (started = true → frame.tail.getLast? = some []) ∧
      Reads (stream, .waiting (.assembling [] false)) (frame.payloads.map .ok) [.ok frame.data]
        ((stream.observe (UInt32.ofNat sent)).value, .waiting (.assembling [] started)) := by
  have ⟨within, fits⟩ := List.forall_mem_cons.mp frame.fits
  have observing := following.observe.receiving
  obtain ⟨filling, trailing, split, ends, empty⟩ := exists_filling frame.tail
  have flat : frame.tail.flatten = filling.flatten := by
    rw [split, List.flatten_append, List.flatten_eq_nil_iff.mpr empty, List.append_nil]
  have total : frame.head.length + filling.flatten.length = layer.frameSize :=
    flat ▸ frame.length_data
  have marked : SyncMarker.decode? (frame.header ++ frame.head) configuration.markerSize =
      some ⟨UInt32.ofNat sent⟩ := by
    rw [SyncMarker.decode?_append _ _ frame.length_header, decoded]
  have opened : (frame.header ++ frame.head).drop configuration.markerSize = frame.head := by
    rw [← frame.length_header, List.drop_left]
  have room : ([] : Bytes).length +
      ((frame.header ++ frame.head).drop configuration.markerSize).length ≤ layer.frameSize := by
    rw [opened, List.length_nil]
    omega
  have opening := received_marker following.receiving enabled marked room
  have whole : (frame.head ++ filling.flatten).length = layer.frameSize := by
    rwa [List.length_append]
  have fitting : ∀ payload ∈ filling, payload.length ≤ configuration.maximumPayload := by
    intro payload member
    exact fits payload (split ▸ List.mem_append_left trailing member)
  have rest := reads_filling observing fitting ends (Nat.le_of_eq total)
  rw [settle_of_eq observing true whole] at rest
  have next := Reads.restart observing positive (.ok (frame.head ++ filling.flatten))
  rw [following.observe.freshPoint_eq] at next
  have run := (rest.append next).append (reads_nothing observing positive empty false)
  refine ⟨false || !trailing.isEmpty, ?_, ?_⟩
  · intro started
    have nonempty : trailing ≠ [] := by simpa using started
    rw [split, List.getLast?_append, List.getLast?_eq_some_getLast nonempty, Option.some_or,
      empty _ (List.getLast_mem nonempty)]
  · refine .receive_within following.receiving within ?_
    rw [opening, opened, List.nil_append, MarkedFrame.data, flat, split, List.map_append]
    rwa [List.append_nil] at run

/-- From one frame to the next a stream counts the runs of lost frames, with the one it is in. -/
theorem reads_course {course : List (Occurrence configuration layer.frameSize)}
    (undisplaced : Undisplaced course)
    (following : Following configuration layer stream sent missed)
    (positive : 0 < layer.frameSize) (enabled : configuration.syncEnabled = true)
    (numbered : Sending.Numbered (sendingsOf course) sent)
    (never : NeverRound (List.replicate missed false ++ fatesOf course))
    (started : Bool)
    (blind : started = true → ∀ payload, (receiptsOf course).head? ≠ some (.ok payload)) :
    ∃ results last ending,
      Reads (stream, .waiting (.assembling [] started)) (receiptsOf course) results
        (last, .waiting (.assembling [] ending)) ∧
      results.filterMap Except.toOption =
        ((sendingsOf course).filter Sending.arrives).map (·.frame.data) ∧
      last.statistics = { stream.statistics with
        gaps := stream.statistics.gaps +
          lossRuns (List.replicate missed false ++ fatesOf course) } ∧
      last.lastIndex = ((arrivedAt sent (fatesOf course)).getLast?.map
        UInt32.ofNat).getD stream.lastIndex ∧
      last.isHunting = false := by
  -- The run of lost frames that the stream is in stands before the fates still to come, so a run
  -- that goes on over several frames is counted where it ends and nowhere else.
  induction undisplaced generalizing stream sent missed started with
  | nil =>
    refine ⟨[], stream, started, .done, rfl, ?_, rfl, following.aligned⟩
    rw [show fatesOf [] = [] from rfl, List.append_nil, lossRuns_replicate]
    rfl
  | @pause _ error _ ih =>
    obtain ⟨results, last, ending, run, returned, rest⟩ :=
      ih following numbered never false nofun
    exact ⟨_, last, ending, (following.reads_pause positive started error).append run, returned,
      rest⟩
  | @sent course sending clear _ ih =>
    obtain ⟨frame, arrives⟩ := sending
    cases arrives with
    | true =>
      obtain rfl : started = false := by
        cases started with
        | false => rfl
        | true => exact absurd rfl (blind rfl (frame.header ++ frame.head))
      obtain ⟨begun, trailing, first⟩ :=
        following.reads_frame positive enabled frame (numbered 0 ⟨frame, true⟩ rfl)
      obtain ⟨results, last, ending, run, returned, counted, seen, aligned⟩ :=
        ih following.observe numbered.tail never.later begun
          fun begins => clear rfl (trailing begins)
      refine ⟨_, last, ending, first.append run, congrArg (frame.data :: ·) returned, ?_, ?_,
        aligned⟩
      · rw [counted, observe_statistics, List.replicate_zero, List.nil_append, fatesOf_sent,
          lossRuns_run]
        simp only [following.expected_iff never.lt, Nat.add_assoc, Nat.add_comm (lossRuns _)]
      · rw [seen, observe_lastIndex, fatesOf_sent, arrivedAt_arrived, List.getLast?_cons]
        cases (arrivedAt (sent + 1) (fatesOf course)).getLast? <;> rfl
    | false =>
      have shift : List.replicate missed false ++ fatesOf (.sent ⟨frame, false⟩ :: course) =
          List.replicate (missed + 1) false ++ fatesOf course := by
        rw [fatesOf_sent, List.replicate_succ', List.append_assoc, List.singleton_append]
      rw [shift] at never
      obtain ⟨results, last, ending, run, returned, counted, seen, aligned⟩ :=
        ih following.miss numbered.tail never started blind
      refine ⟨results, last, ending, run, returned, ?_, ?_, aligned⟩
      · rw [counted, shift]
      · rw [seen, fatesOf_sent, arrivedAt_lost]

private def numbering : OutputConfiguration :=
  (OutputConfiguration.ofParameters { maximumPayload := 24, syncEnabled := true }
    ⟨"edge", .deviceToHost, 4, 1⟩).toOption.get rfl

private def numberingStream (isActivated : Bool) (leftover : Bytes) (lastIndex : UInt32) :
    OutputStream :=
  { layer := ⟨"edge", .deviceToHost, 4, 1⟩, configuration := numbering,
    lifecycle := { name := "edge", isActivated }, timeout := .zero, batchSize := 1, leftover,
    lastIndex }

private theorem reads_hidden :
    Reads (numberingStream true [] SyncMarker.unobserved, .waiting (.assembling [] false))
      [.ok (SyncMarker.encode ⟨0⟩ 8 ++ [1, 2, 3, 4]), .ok [],
        .ok (SyncMarker.encode ⟨1⟩ 8 ++ [5, 6, 7, 8])]
      [.ok [1, 2, 3, 4], .ok [0x5A, 0x5A, 0xA5, 0xA5], .ok [0, 0, 0, 1], .ok [5, 6, 7, 8]]
      (numberingStream true [] 0, .waiting (.assembling [] false)) := by
  refine .receive ?_
  change Reads (numberingStream true [] 0, .finished (.ok [1, 2, 3, 4])) _ _ _
  refine .again (.receive ?_)
  change Reads (numberingStream true [] 0, .waiting (.assembling [] true)) _ _ _
  refine .receive ?_
  change Reads
    (numberingStream true [0, 0, 0, 1, 5, 6, 7, 8] 0, .finished (.ok [0x5A, 0x5A, 0xA5, 0xA5]))
    _ _ _
  refine .again ?_
  change Reads (numberingStream true [5, 6, 7, 8] 0, .finished (.ok [0, 0, 0, 1])) _ _ _
  refine .again ?_
  change Reads (numberingStream true [] 0, .finished (.ok [5, 6, 7, 8])) _ _ _
  exact .again .done

/-- What reads have made of a course when the gaps are exact: they have returned the frames that
arrived, and each run of lost frames before one of these counts once. -/
structure KeepsCount (stream : OutputStream)
    (course : List (Occurrence stream.configuration stream.layer.frameSize))
    (results : List (Except StreamError Bytes)) (last : OutputStream) : Prop where
  returned :
    results.filterMap Except.toOption =
      ((sendingsOf course).filter Sending.arrives).map (·.frame.data)
  statistics :
    last.statistics =
      { stream.statistics with gaps := stream.statistics.gaps + lossRuns (fatesOf course) }
  lastIndex :
    last.lastIndex =
      ((arrivedAt 0 (fatesOf course)).getLast?.map UInt32.ofNat).getD SyncMarker.unobserved
  isHunting : last.isHunting = false

/-- After an activation without `resume`, and with no failure in the middle of a frame, reads return
exactly the frames that arrive, in order. Each run of lost frames before a frame that arrives counts
as one gap, the last index seen is that of the last frame that arrived, and nothing else has been
counted or changed. For that no frame may follow at once on an empty payload that ends another. -/
theorem gaps_eq_lossRuns {activated : Logged OutputStream} {batchSize : UInt16}
    (course : List (Occurrence stream.configuration stream.layer.frameSize))
    (enabled : stream.configuration.syncEnabled = true) (positive : 0 < stream.layer.frameSize)
    (activation : stream.completeActivation batchSize false = .ok activated)
    (numbered : Sending.Numbered (sendingsOf course) 0) (never : NeverRound (fatesOf course))
    (undisplaced : Undisplaced course) :
    activated.value.isHunting = false ∧ ∃ results last point,
      Reads (activated.value.beginRead stream.layer.frameSize).value (receiptsOf course) results
        (last, .waiting point) ∧
      stream.KeepsCount course results last ∧
      ∀ results' last' point',
        Reads (activated.value.beginRead stream.layer.frameSize).value (receiptsOf course) results'
          (last', .waiting point') → results' = results ∧ last' = last := by
  have ⟨receiving, aligned⟩ := completeActivation_receiving activation
  obtain ⟨lifecycle, value⟩ := completeActivation_value activation
  rw [if_neg Bool.false_ne_true] at value
  have following : Following stream.configuration stream.layer activated.value 0 0 := by
    refine ⟨receiving, aligned, Nat.le_refl _, ?_⟩
    -- What is held before any marker is the index before the first, so a loss at the start counts.
    rw [value]
    exact SyncMarker.successor_unobserved
  have start := beginRead_fresh receiving positive
  rw [receiving.layer_eq, following.freshPoint_eq] at start
  obtain ⟨results, last, ending, run, returned, counted, seen, still⟩ :=
    reads_course undisplaced following positive enabled numbered never false nofun
  rw [← start] at run
  refine ⟨aligned, results, last, _, run, ⟨returned, ?_, ?_, still⟩, ?_⟩
  · rw [counted, value]
    rfl
  · rw [seen, value]
  · intro results' last' point' other
    obtain ⟨same, rest, _⟩ := other.unique run
    exact ⟨same, rest⟩

/-- Eight frames of which three arrive: two runs of lost frames are followed by one that arrives.
After the empty payload at the end of the first of the three a receive fails. -/
theorem gaps_eq_lossRuns_of_two_runs :
    ∃ (stream : OutputStream) (activated : Logged OutputStream)
      (course : List (Occurrence stream.configuration stream.layer.frameSize))
      (results : List (Except StreamError Bytes)) (last : OutputStream) (point : ReadPoint),
      stream.statistics.gaps = 3 ∧ stream.completeActivation 1 false = .ok activated ∧
        fatesOf course = [false, true, false, false, true, true, false] ∧
        receiptsOf course =
          [.ok (SyncMarker.encode ⟨1⟩ 8 ++ [1, 2]), .ok [], .ok [3, 4], .ok [],
            .error (.timeout "receive" .zero), .ok (SyncMarker.encode ⟨4⟩ 8), .ok [5, 6, 7, 8],
            .ok (SyncMarker.encode ⟨5⟩ 8), .ok [5, 6, 7, 8]] ∧
        Reads (activated.value.beginRead 4).value (receiptsOf course) results
          (last, .waiting point) ∧
        results.filterMap Except.toOption = [[1, 2, 3, 4], [5, 6, 7, 8], [5, 6, 7, 8]] ∧
        last.statistics = { gaps := 5, resyncs := 1 } ∧ last.lastIndex = 5 := by
  let stream : OutputStream :=
    { layer := ⟨"edge", .deviceToHost, 4, 1⟩, configuration := numbering,
      lifecycle := { name := "edge" }, timeout := .zero, batchSize := 1, lastIndex := 41,
      isHunting := true, statistics := { gaps := 3, resyncs := 1 } }
  let split : MarkedFrame numbering 4 :=
    .numbered numbering rfl 1 [1, 2] [[], [3, 4], []] (by decide)
  let whole (index : UInt32) : MarkedFrame numbering 4 :=
    .numbered numbering rfl index [] [[5, 6, 7, 8]] (by decide)
  let course : List (Occurrence numbering 4) :=
    [.sent ⟨whole 0, false⟩, .sent ⟨split, true⟩, .pause (.timeout "receive" .zero),
      .sent ⟨whole 2, false⟩, .sent ⟨whole 3, false⟩, .sent ⟨whole 4, true⟩, .sent ⟨whole 5, true⟩,
      .sent ⟨whole 6, false⟩]
  have numbered : Sending.Numbered (sendingsOf course) 0 := by
    intro position sending found
    match position, found with
    | 0, found | 1, found | 2, found | 3, found | 4, found | 5, found | 6, found =>
      cases found
      rfl
  have never : NeverRound (fatesOf course) := .of_short (by decide)
  have undisplaced : Undisplaced course :=
    .sent nofun (.sent (fun _ _ _ => nofun) (.pause (.sent nofun (.sent nofun
      (.sent (fun _ => nofun) (.sent (fun _ => nofun) (.sent nofun .nil)))))))
  obtain ⟨activated, activation⟩ : ∃ activated, stream.completeActivation 1 false = .ok activated :=
    ⟨_, rfl⟩
  obtain ⟨_, results, last, point, run, keeps, _⟩ :=
    gaps_eq_lossRuns course rfl (by decide) activation numbered never undisplaced
  exact ⟨stream, activated, course, results, last, point, rfl, activation, rfl, rfl, run,
    keeps.returned, keeps.statistics, keeps.lastIndex⟩

/-- Right behind a frame an empty payload makes the marker after it a part of the next frame. -/
theorem trailing_empty_payload_hides_marker :
    ¬ ∀ (stream : OutputStream) (activated : Logged OutputStream) (batchSize : UInt16)
      (course : List (Occurrence stream.configuration stream.layer.frameSize)),
      stream.configuration.syncEnabled = true → 0 < stream.layer.frameSize →
      stream.completeActivation batchSize false = .ok activated →
      Sending.Numbered (sendingsOf course) 0 → NeverRound (fatesOf course) →
      ∃ results last point,
        Reads (activated.value.beginRead stream.layer.frameSize).value (receiptsOf course) results
          (last, .waiting point) ∧
        stream.KeepsCount course results last := by
  intro claim
  let first : MarkedFrame numbering 4 := .numbered numbering rfl 0 [1, 2, 3, 4] [[]] (by decide)
  let second : MarkedFrame numbering 4 := .numbered numbering rfl 1 [5, 6, 7, 8] [] (by decide)
  let course : List (Occurrence numbering 4) := [.sent ⟨first, true⟩, .sent ⟨second, true⟩]
  have numbered : Sending.Numbered (sendingsOf course) 0 := by
    intro position sending found
    match position, found with
    | 0, found | 1, found =>
      cases found
      rfl
  have never : NeverRound (fatesOf course) := .of_short (by decide)
  obtain ⟨results, last, point, run, keeps⟩ :=
    claim (numberingStream false [] 0) _ 1 course rfl (by decide) rfl numbered never
  obtain ⟨rfl, _, _⟩ := run.unique reads_hidden
  exact absurd keeps.returned (by decide)

end OutputStream

end FrameStream
