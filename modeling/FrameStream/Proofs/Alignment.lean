import FrameStream.Proofs.Advance

/-!
The two ways from a hunt to a frame. A read of a stream that hunts aligns it first, and the owner of
the stream can do the same by an alignment and a read. Both come to the same, except after a marker
that no data follows: the read knows that this marker has opened its frame, while a stream that was
aligned keeps nothing of it, and takes the next marker for the one that opens the frame.
-/

namespace FrameStream

/-- Receipts with which a hunt ends at a marker without data, right before another marker. -/
inductive DoublyMarked (markerSize : Nat) : List Receipt → Prop where
  | passed : SyncMarker.decode? payload markerSize = none → DoublyMarked markerSize receipts →
      DoublyMarked markerSize (.ok payload :: receipts)
  | found : (SyncMarker.decode? bare markerSize).isSome → bare.length = markerSize →
      (SyncMarker.decode? next markerSize).isSome →
      DoublyMarked markerSize (.ok bare :: .ok next :: receipts)

namespace DoublyMarked

theorem passed_iff (plain : SyncMarker.decode? payload markerSize = none) :
    DoublyMarked markerSize (.ok payload :: receipts) ↔ DoublyMarked markerSize receipts := by
  constructor
  · intro marked
    cases marked with
    | passed _ later => exact later
    | found marks => simp [plain] at marks
  · exact .passed plain

theorem found_iff (decoded : SyncMarker.decode? payload markerSize = some marker) :
    DoublyMarked markerSize (.ok payload :: receipts) ↔
      payload.length = markerSize ∧ ∃ next later, receipts = .ok next :: later ∧
        (SyncMarker.decode? next markerSize).isSome := by
  constructor
  · intro marked
    cases marked with
    | passed plain => simp [decoded] at plain
    | found _ bare next => exact ⟨bare, _, _, rfl, next⟩
  · rintro ⟨bare, next, later, rfl, marks⟩
    exact .found (by rw [decoded]; rfl) bare marks

end DoublyMarked

namespace OutputStream

variable {stream : OutputStream}

theorem loseFrame_indices (stream : OutputStream) (error : StreamError) (filled : Bytes) :
    (stream.loseFrame error filled).value.lastIndex = stream.lastIndex ∧
      (stream.loseFrame error filled).value.statistics.gaps = stream.statistics.gaps := by
  unfold loseFrame
  split <;> exact ⟨rfl, rfl⟩

/-- A read that has started looks at no more markers. -/
theorem readOn_indices (active : stream.lifecycle.state = .active)
    (gathers : Gathers stream held true state) (receipts : List Receipt) :
    (readOn state receipts).stream.lastIndex = stream.lastIndex ∧
      (readOn state receipts).stream.statistics.gaps = stream.statistics.gaps := by
  induction receipts generalizing held state with
  | nil =>
    cases gathers with
    | short => exact ⟨rfl, rfl⟩
    | whole => exact ⟨rfl, rfl⟩
  | cons receipt receipts ih =>
    cases gathers with
    | whole => exact ⟨rfl, rfl⟩
    | short short =>
      have resting : (stream.leaving []).lifecycle.state = .active := active
      cases receipt with
      | error error =>
        rw [readOn_error resting]
        exact (stream.leaving []).loseFrame_indices error held
      | ok datagram =>
        rw [readOn_ok resting]
        exact ih (received_continuation short _)

theorem observe_active (active : stream.lifecycle.state = .active) (index : UInt32) :
    (stream.observe index).value.lifecycle.state = .active := by
  rw [observe_lifecycle]
  exact active

/-- The index of a marker and its place in the count of gaps never both stay as they are. -/
theorem observe_changes (stream : OutputStream) (index : UInt32) :
    (stream.observe index).value.lastIndex ≠ stream.lastIndex ∨
      (stream.observe index).value.statistics.gaps ≠ stream.statistics.gaps := by
  rw [observe_lastIndex, observe_statistics]
  by_cases expected : index = SyncMarker.successor stream.lastIndex
  · left
    rw [expected, SyncMarker.successor]
    simp
  · right
    rw [if_neg expected]
    exact Nat.succ_ne_self _

/-- Whether a frame counts as started makes a difference only to a payload with a marker. -/
theorem readOn_start_eq_iff (active : stream.lifecycle.state = .active)
    (enabled : stream.configuration.syncEnabled = true) (empty : stream.leftover = [])
    (positive : 0 < stream.layer.frameSize) (receipts : List Receipt) :
    readOn (stream, .waiting (.assembling [] true)) receipts =
        readOn (stream, .waiting (.assembling [] false)) receipts ↔
      ¬ ∃ next later, receipts = .ok next :: later ∧
        (SyncMarker.decode? next stream.configuration.markerSize).isSome := by
  match receipts with
  | [] =>
    rw [readOn_waiting, readOn_waiting]
    simp
  | .error error :: receipts =>
    rw [readOn_error active, readOn_error active]
    simp [received]
  | .ok datagram :: receipts =>
    have cut := decode?_cut enabled datagram
    rw [readOn_ok active, readOn_ok active, Advance.after_inj]
    cases decoded : SyncMarker.decode? datagram stream.configuration.markerSize with
    | none =>
      rw [received_unmarked (cut.trans decoded)]
      simp [decoded]
    | some marker =>
      have room : ([] : Bytes).length < stream.layer.frameSize := positive
      have untouched := readOn_indices active
        (received_continuation room (datagram.take stream.configuration.maximumPayload)) receipts
      have observed := readOn_indices (observe_active active marker.index)
        (received_start enabled empty room (cut.trans decoded)) receipts
      -- One read takes the marker for data and the other notes it, and nothing later undoes that.
      constructor
      · intro same
        rw [leaving_of_empty empty, same, observed.1, observed.2] at untouched
        rcases stream.observe_changes marker.index with indexed | counted
        · exact absurd untouched.1 indexed
        · exact absurd untouched.2 counted
      · intro plain
        exact absurd ⟨datagram, receipts, rfl, by rw [decoded]; rfl⟩ plain

theorem readAfter_after (aligned : Advance UInt32) (taken : List Bytes) :
    readAfter (aligned.after taken) = (readAfter aligned).after taken := by
  obtain ⟨stream, later, result?, remaining⟩ := aligned
  match result? with
  | none => rfl
  | some (.error error) => rfl
  | some (.ok index) => simp [readAfter, Advance.after]

theorem readOver_adopting (active : stream.lifecycle.state = .active) (index : UInt32)
    (rest : Bytes) (receipts : List Receipt) :
    (stream.adopting index rest).readOver receipts =
      readOn ((stream.adopting index rest).beginFrame false).value receipts := by
  apply readOver_aligned
  · exact active
  · rfl

theorem alignThenRead_eq (active : stream.lifecycle.state = .active)
    (enabled : stream.configuration.syncEnabled = true) (receipts : List Receipt) :
    stream.alignThenRead receipts = readAfter (alignOn (stream.leaving []) receipts) := by
  have ready := (Lifecycle.ensureActive_eq_ok _).mpr active
  simp [alignThenRead, beginAlignment, ready, enabled, leaving]

/-- A frame that already has bytes has started, whether it was aligned or not. -/
theorem beginFrame_of_held (held : 0 < stream.layer.frameSize → stream.leftover ≠ []) :
    stream.beginFrame true = stream.beginFrame false := by
  by_cases positive : 0 < stream.layer.frameSize
  · have some : (stream.leftover.take stream.layer.frameSize).isEmpty = false := by
      rw [List.isEmpty_eq_false_iff, Ne, List.take_eq_nil_iff, not_or]
      exact ⟨Nat.ne_of_gt positive, held positive⟩
    rw [beginFrame, beginFrame, some]
    rfl
  · have full (filled : Bytes) : ¬ filled.length < stream.layer.frameSize := by omega
    simp only [beginFrame, settle, if_neg (full _)]

theorem beginFrame_empty (empty : stream.leftover = [])
    (positive : 0 < stream.layer.frameSize) (aligned : Bool) :
    (stream.beginFrame aligned).value = (stream, .waiting (.assembling [] aligned)) := by
  have nothing : { stream with leftover := [] } = stream := by rw [← empty]
  simp [beginFrame, settle, empty, positive, nothing]

theorem drop_marker_eq_nil (enabled : stream.configuration.syncEnabled = true)
    (decoded : SyncMarker.decode? datagram stream.configuration.markerSize = some marker) :
    (datagram.take stream.configuration.maximumPayload).drop
        stream.configuration.markerSize = [] ↔
      datagram.length = stream.configuration.markerSize := by
  have fits := stream.configuration.marker_lt enabled
  have ⟨_, long⟩ := SyncMarker.length_of_decode? decoded
  rw [List.drop_eq_nil_iff, List.length_take]
  omega

/-- Whether an aligned frame counts as started makes no difference if it has any bytes. -/
theorem readOn_beginFrame_eq_iff (active : stream.lifecycle.state = .active)
    (enabled : stream.configuration.syncEnabled = true) (receipts : List Receipt) :
    readOn (stream.beginFrame true).value receipts =
        readOn (stream.beginFrame false).value receipts ↔
      ¬ (0 < stream.layer.frameSize ∧ stream.leftover = [] ∧
        ∃ next later, receipts = .ok next :: later ∧
          (SyncMarker.decode? next stream.configuration.markerSize).isSome) := by
  by_cases open? : 0 < stream.layer.frameSize ∧ stream.leftover = []
  · obtain ⟨positive, empty⟩ := open?
    rw [beginFrame_empty empty positive, beginFrame_empty empty positive,
      readOn_start_eq_iff active enabled empty positive]
    simp [positive, empty]
  · have held (positive : 0 < stream.layer.frameSize) : stream.leftover ≠ [] :=
      fun empty => open? ⟨positive, empty⟩
    rw [beginFrame_of_held held]
    refine iff_of_true rfl ?_
    rintro ⟨positive, empty, _⟩
    exact held positive empty

/-- A hunt comes to the same either way, if it does not end at a marker without data right before
another one. -/
theorem readOn_hunting_eq_iff (active : stream.lifecycle.state = .active)
    (enabled : stream.configuration.syncEnabled = true) (empty : stream.leftover = [])
    (receipts : List Receipt) :
    readOn (stream, .waiting .hunting) receipts = readAfter (alignOn stream receipts) ↔
      ¬ (0 < stream.layer.frameSize ∧
        DoublyMarked stream.configuration.markerSize receipts) := by
  induction receipts generalizing stream with
  | nil =>
    refine iff_of_true ?_ ?_
    · rw [readOn_waiting]
      rfl
    · rintro ⟨_, marked⟩
      cases marked
  | cons receipt receipts ih =>
    cases receipt with
    | error error =>
      refine iff_of_true ?_ ?_
      · rw [readOn_error active, alignOn, answer_fault active]
        rfl
      · rintro ⟨_, marked⟩
        cases marked
    | ok datagram =>
      have cut := decode?_cut enabled datagram
      rw [readOn_ok active, alignOn, answer_ok active]
      cases decoded : SyncMarker.decode? datagram stream.configuration.markerSize with
      | none =>
        have plain := cut.trans decoded
        simp only [received_passing plain, align_unmarked plain, readAfter_after]
        rw [Advance.after_inj, DoublyMarked.passed_iff decoded]
        exact ih active enabled empty
      | some marker =>
        have marked := cut.trans decoded
        simp only [received_adopting empty marked, align_marked empty marked, readAfter]
        rw [Advance.after_inj, readOver_adopting active, DoublyMarked.found_iff decoded,
          ← drop_marker_eq_nil enabled decoded]
        apply readOn_beginFrame_eq_iff
        · exact active
        · exact enabled

/-- One read of a stream that hunts, and an alignment with a read after it, take the same receipts,
come to the same result and leave the same stream, unless the marker found has no data behind it and
another marker comes next. -/
theorem readOver_eq_alignThenRead_iff (active : stream.lifecycle.state = .active)
    (hunting : stream.isHunting = true) (enabled : stream.configuration.syncEnabled = true)
    (receipts : List Receipt) :
    stream.readOver receipts = stream.alignThenRead receipts ↔
      ¬ (0 < stream.layer.frameSize ∧
        DoublyMarked stream.configuration.markerSize receipts) := by
  have resting : (stream.leaving []).lifecycle.state = .active := active
  rw [readOver_hunting active hunting enabled, alignThenRead_eq active enabled]
  exact readOn_hunting_eq_iff resting enabled rfl receipts

/-- Behind a marker without data both ways take a payload of data for the start of the frame. -/
theorem readOver_eq_alignThenRead_of_bare_marker :
    lostStream.lifecycle.state = .active ∧ lostStream.isHunting = true ∧
      lostStream.configuration.syncEnabled = true ∧
      lostStream.readOver [.ok [9], .ok (SyncMarker.encode ⟨1⟩ 8), .ok (List.replicate 10 4),
          .ok [5, 6, 7]] =
        lostStream.alignThenRead [.ok [9], .ok (SyncMarker.encode ⟨1⟩ 8),
          .ok (List.replicate 10 4), .ok [5, 6, 7]] ∧
      (lostStream.alignThenRead [.ok [9], .ok (SyncMarker.encode ⟨1⟩ 8),
          .ok (List.replicate 10 4), .ok [5, 6, 7]]).result? =
        some (.ok (List.replicate 10 4 ++ [5, 6])) := by
  refine ⟨rfl, rfl, rfl, ?_, rfl⟩
  refine (readOver_eq_alignThenRead_iff rfl rfl rfl _).mpr ?_
  rintro ⟨_, marked⟩
  rw [DoublyMarked.passed_iff rfl, DoublyMarked.found_iff rfl] at marked
  obtain ⟨_, next, later, follows, marks⟩ := marked
  cases follows
  cases marks

/-- After a marker without data the two ways part at the next marker: the read takes it for data of
its frame, the aligned stream for the marker that opens the frame. -/
theorem readOver_ne_alignThenRead :
    ∃ (stream : OutputStream) (receipts : List Receipt),
      Reached stream .idle ∧ stream.lifecycle.state = .active ∧ stream.isHunting = true ∧
        stream.configuration.syncEnabled = true ∧
        receipts = [.ok (SyncMarker.encode ⟨1⟩ 8), .ok (SyncMarker.encode ⟨7⟩ 8 ++ [1, 2, 3, 4])] ∧
        (stream.readOver receipts).result? =
          some (.ok (SyncMarker.encode ⟨7⟩ 8 ++ [1, 2, 3, 4])) ∧
        (stream.readOver receipts).stream.lastIndex = 1 ∧
        (stream.alignThenRead receipts).result? = none ∧
        (stream.alignThenRead receipts).stream.lastIndex = 7 := by
  exact ⟨lostStream, _, lostStream_reached, rfl, rfl, rfl, rfl, rfl, rfl, rfl, rfl⟩

end OutputStream

end FrameStream
