import FrameStream.Proofs.Operations

namespace FrameStream

/-- How far an operation has come over the receipts that there were for it. -/
structure Advance (value : Type) where
  stream : OutputStream
  /-- The datagrams that it took, as they fitted into the buffer. -/
  taken : List Bytes := []
  /-- Missing while the operation waits for another receipt. -/
  result? : Option (Except StreamError value) := none
  /-- The receipts that it did not look at. -/
  remaining : List Receipt := []

namespace Advance

variable {value : Type}

/-- The same advance by an operation that had taken these datagrams before. -/
def after (taken : List Bytes) (advance : Advance value) : Advance value :=
  { advance with taken := taken ++ advance.taken }

@[simp]
theorem after_after (advance : Advance value) (earlier taken : List Bytes) :
    (advance.after taken).after earlier = advance.after (earlier ++ taken) := by
  simp [after]

theorem after_inj {advance other : Advance value} {taken : List Bytes} :
    advance.after taken = other.after taken ↔ advance = other := by
  obtain ⟨_, _, _, _⟩ := advance
  obtain ⟨_, _, _, _⟩ := other
  simp [after]

@[simp]
theorem after_stream (advance : Advance value) (taken : List Bytes) :
    (advance.after taken).stream = advance.stream := rfl

@[simp]
theorem after_result? (advance : Advance value) (taken : List Bytes) :
    (advance.after taken).result? = advance.result? := rfl

end Advance

/-- So many payloads, and no fewer, are enough for a frame with what is held of it. -/
structure Shortest (frameSize : Nat) (held : Bytes) (payloads : List Bytes) (count : Nat) :
    Prop where
  within : count ≤ payloads.length
  enough : frameSize ≤ (held ++ (payloads.take count).flatten).length
  least : ∀ fewer < count, (held ++ (payloads.take fewer).flatten).length < frameSize

namespace Shortest

theorem zero (payloads : List Bytes) (enough : frameSize ≤ held.length) :
    Shortest frameSize held payloads 0 := by
  refine ⟨Nat.zero_le _, ?_, fun _ fewer => absurd fewer (Nat.not_lt_zero _)⟩
  simpa using enough

theorem succ (short : held.length < frameSize)
    (shortest : Shortest frameSize (held ++ payload) payloads count) :
    Shortest frameSize held (payload :: payloads) (count + 1) := by
  obtain ⟨within, enough, least⟩ := shortest
  constructor
  · exact Nat.succ_le_succ within
  · rwa [List.take_succ_cons, List.flatten_cons, ← List.append_assoc]
  · intro fewer earlier
    cases fewer with
    | zero => simpa using short
    | succ fewer =>
      have shorter := least fewer (Nat.lt_of_succ_lt_succ earlier)
      rwa [List.take_succ_cons, List.flatten_cons, ← List.append_assoc]

theorem unique (shortest : Shortest frameSize held payloads count)
    (other : Shortest frameSize held payloads count') : count = count' := by
  rcases Nat.lt_trichotomy count count' with fewer | same | more
  · exact absurd shortest.enough (Nat.not_le.mpr (other.least count fewer))
  · exact same
  · exact absurd other.enough (Nat.not_le.mpr (shortest.least count' more))

end Shortest

namespace OutputStream

/-- A read goes on from where it stands, until it is over or waits. -/
def readOn : ReadState → List Receipt → Advance Bytes
  | (stream, .finished result), receipts =>
    { stream, result? := some result, remaining := receipts }
  | (stream, .waiting _), [] => { stream }
  | (stream, .waiting point), receipt :: receipts =>
    (readOn (stream.received point (stream.answer receipt)).value receipts).after
      (stream.answer receipt).toOption.toList

def readOver (stream : OutputStream) (receipts : List Receipt) : Advance Bytes :=
  readOn (stream.beginRead stream.layer.frameSize).value receipts

def alignOn : OutputStream → List Receipt → Advance UInt32
  | stream, [] => { stream }
  | stream, receipt :: receipts =>
    match stream.answer receipt with
    | .error error => { stream, result? := some (.error error), remaining := receipts }
    | .ok payload =>
      match (stream.align payload).value with
      | (aligned, some index) =>
        { stream := aligned, taken := [payload], result? := some (.ok index),
          remaining := receipts }
      | (passed, none) => (alignOn passed receipts).after [payload]

/-- A read after an alignment, if that has succeeded. -/
def readAfter (aligned : Advance UInt32) : Advance Bytes :=
  match aligned.result? with
  | some (.ok _) => (aligned.stream.readOver aligned.remaining).after aligned.taken
  | some (.error error) => { aligned with result? := some (.error error) }
  | none => { aligned with result? := none }

def alignThenRead (stream : OutputStream) (receipts : List Receipt) : Advance Bytes :=
  match stream.beginAlignment with
  | .error error => { stream, result? := some (.error error), remaining := receipts }
  | .ok started => readAfter (alignOn started.value receipts)

def cut (stream : OutputStream) (datagrams : List Bytes) : List Bytes :=
  datagrams.map (List.take stream.configuration.maximumPayload)

variable {stream : OutputStream} {datagrams : List Bytes} {held : Bytes}

theorem cut_of_within
    (within : ∀ datagram ∈ datagrams, datagram.length ≤ stream.configuration.maximumPayload) :
    stream.cut datagrams = datagrams := by
  rw [cut, List.map_congr_left fun datagram member => List.take_of_length_le (within datagram member)]
  exact List.map_id _

theorem decode?_cut (enabled : stream.configuration.syncEnabled = true) (datagram : Bytes) :
    SyncMarker.decode? (datagram.take stream.configuration.maximumPayload)
        stream.configuration.markerSize =
      SyncMarker.decode? datagram stream.configuration.markerSize :=
  SyncMarker.decode?_take datagram (Nat.le_of_lt (stream.configuration.marker_lt enabled))

theorem answer_ok (active : stream.lifecycle.state = .active) (datagram : Bytes) :
    stream.answer (.ok datagram) =
      .ok (datagram.take stream.configuration.maximumPayload) := by
  rw [answer, (Lifecycle.ensureActive_eq_ok _).mpr active]
  rfl

theorem answer_fault (active : stream.lifecycle.state = .active) (error : StreamError) :
    stream.answer (.error error) = .error error := by
  rw [answer, (Lifecycle.ensureActive_eq_ok _).mpr active]
  rfl

theorem readOver_aligned (active : stream.lifecycle.state = .active)
    (aligned : stream.isHunting = false) (receipts : List Receipt) :
    stream.readOver receipts = readOn (stream.beginFrame false).value receipts := by
  have ready := (Lifecycle.ensureActive_eq_ok _).mpr active
  simp [readOver, beginRead, ready, aligned]

theorem readOver_hunting (active : stream.lifecycle.state = .active)
    (hunting : stream.isHunting = true) (enabled : stream.configuration.syncEnabled = true)
    (receipts : List Receipt) :
    stream.readOver receipts = readOn (stream.leaving [], .waiting .hunting) receipts := by
  have ready := (Lifecycle.ensureActive_eq_ok _).mpr active
  simp [readOver, beginRead, beginAlignment, ready, hunting, enabled, leaving]

theorem readOn_finished (stream : OutputStream) (result : Except StreamError Bytes)
    (receipts : List Receipt) :
    readOn (stream, .finished result) receipts =
      { stream, result? := some result, remaining := receipts } := by
  rw [readOn]

theorem readOn_waiting (stream : OutputStream) (point : ReadPoint) :
    readOn (stream, .waiting point) [] = { stream } := by
  rw [readOn]

theorem readOn_ok (active : stream.lifecycle.state = .active) (point : ReadPoint)
    (datagram : Bytes) (receipts : List Receipt) :
    readOn (stream, .waiting point) (.ok datagram :: receipts) =
      (readOn (stream.received point
        (.ok (datagram.take stream.configuration.maximumPayload))).value receipts).after
          [datagram.take stream.configuration.maximumPayload] := by
  rw [readOn, answer_ok active]
  rfl

theorem readOn_error (active : stream.lifecycle.state = .active) (point : ReadPoint)
    (error : StreamError) (receipts : List Receipt) :
    readOn (stream, .waiting point) (.error error :: receipts) =
      { stream := (stream.received point (.error error)).value.1
        result? := some (.error error)
        remaining := receipts } := by
  have failed := stream.received_error point error
  rw [readOn, answer_fault active]
  generalize (stream.received point (.error error)).value = state at failed
  obtain ⟨next, progress⟩ := state
  cases failed
  exact readOn_finished next (.error error) receipts

/-- An advance is what a task makes of some incidents and the receipts it then looks at, and once it
has a result nothing is left to do. -/
structure Follows (stream : OutputStream) (task : Task) (before : List Incident)
    (receipts : List Receipt) (reply : value → Reply) (advance : Advance value)
    (used : List Receipt) (final : Task) : Prop where
  split : receipts = used ++ advance.remaining
  run : Runs stream task (before ++ used.map .receive) advance.taken
    (advance.result?.map (Except.map reply)).toList advance.stream final
  finished : advance.result?.isSome → final = .idle

theorem Follows.receive {reply : value → Reply} {advance : Advance value}
    (responds : Responds stream task (.receive receipt) next) (quiet : next.reply? = none)
    (follows : Follows next.stream next.task [] receipts reply advance used final) :
    Follows stream task [] (receipt :: receipts) reply (advance.after next.taken?.toList)
      (receipt :: used) final := by
  obtain ⟨split, run, finished⟩ := follows
  have whole := Runs.step responds run
  rw [quiet] at whole
  exact ⟨congrArg (receipt :: ·) split, whole, finished⟩

theorem Follows.start {reply : value → Reply} {advance : Advance value}
    (responds : Responds stream .idle incident { stream := next, task })
    (follows : Follows next task [] receipts reply advance used final) :
    Follows stream .idle [incident] receipts reply advance used final := by
  obtain ⟨split, run, finished⟩ := follows
  exact ⟨split, Runs.step responds run, finished⟩

theorem readOn_follows (stream : OutputStream) (point : ReadPoint) (receipts : List Receipt) :
    ∃ used final, Follows stream (.reading point) [] receipts .frame
      (readOn (stream, .waiting point) receipts) used final := by
  induction receipts generalizing stream point with
  | nil => exact ⟨[], _, rfl, .done, nofun⟩
  | cons receipt receipts ih =>
    have responds : Responds stream (.reading point) (.receive receipt) _ := .receive
    rw [readOn]
    generalize (stream.received point (stream.answer receipt)).value = state at responds ⊢
    match state with
    | (next, .waiting following) =>
      obtain ⟨used, final, follows⟩ := ih next following
      exact ⟨receipt :: used, final, .receive responds rfl follows⟩
    | (next, .finished result) =>
      rw [readOn_finished]
      exact ⟨[receipt], .idle, rfl, Runs.step responds .done, fun _ => rfl⟩

theorem alignOn_follows (stream : OutputStream) (receipts : List Receipt) :
    ∃ used final, Follows stream .aligning [] receipts .index (alignOn stream receipts) used
      final := by
  induction receipts generalizing stream with
  | nil => exact ⟨[], _, rfl, .done, nofun⟩
  | cons receipt receipts ih =>
    rw [alignOn]
    cases answered : stream.answer receipt with
    | error error =>
      exact ⟨[receipt], .idle, rfl, Runs.step (.missed answered) .done, fun _ => rfl⟩
    | ok payload =>
      have responds : Responds stream .aligning (.receive receipt) _ := .found answered
      dsimp only
      generalize (stream.align payload).value = state at responds ⊢
      match state with
      | (passed, none) =>
        obtain ⟨used, final, follows⟩ := ih passed
        exact ⟨receipt :: used, final, .receive responds rfl follows⟩
      | (aligned, some index) =>
        exact ⟨[receipt], .idle, rfl, Runs.step responds .done, fun _ => rfl⟩

/-- A read as a whole is what happens when its owner starts it. -/
theorem readOver_follows (stream : OutputStream) (receipts : List Receipt) :
    ∃ used final, Follows stream .idle [.read stream.layer.frameSize] receipts .frame
      (stream.readOver receipts) used final := by
  have responds : Responds stream .idle (.read stream.layer.frameSize) _ := .read
  rw [readOver]
  generalize (stream.beginRead stream.layer.frameSize).value = state at responds ⊢
  match state with
  | (next, .waiting point) =>
    obtain ⟨used, final, follows⟩ := readOn_follows next point receipts
    exact ⟨used, final, .start responds follows⟩
  | (next, .finished result) =>
    rw [readOn_finished]
    exact ⟨[], .idle, rfl, Runs.step responds .done, fun _ => rfl⟩

theorem alignment_follows (begun : stream.beginAlignment = .ok started)
    (receipts : List Receipt) :
    ∃ used final, Follows stream .idle [.align] receipts .index (alignOn started.value receipts)
      used final := by
  obtain ⟨used, final, follows⟩ := alignOn_follows started.value receipts
  exact ⟨used, final, .start (.align begun) follows⟩

/-- The stream once a hunt has passed over so many more payloads. -/
def passing (stream : OutputStream) (count : Nat) : OutputStream :=
  { stream with
    statistics.discardedPayloads := stream.statistics.discardedPayloads + count }

@[simp]
theorem passing_configuration (stream : OutputStream) (count : Nat) :
    (stream.passing count).configuration = stream.configuration := rfl

theorem passing_passing (stream : OutputStream) (count more : Nat) :
    (stream.passing count).passing more = stream.passing (count + more) := by
  simp [passing, Nat.add_assoc]

/-- The stream once a hunt has ended at a marker with this index, before these bytes. -/
def adopting (stream : OutputStream) (index : UInt32) (rest : Bytes) : OutputStream :=
  { stream with
    lastIndex := index
    isHunting := false
    leftover := rest
    statistics.resyncs := stream.statistics.resyncs + 1 }

theorem align_unmarked
    (plain : SyncMarker.decode? payload stream.configuration.markerSize = none) :
    (stream.align payload).value = (stream.passing 1, none) := by
  rw [align, plain]
  rfl

theorem align_marked (empty : stream.leftover = [])
    (decoded : SyncMarker.decode? payload stream.configuration.markerSize = some marker) :
    (stream.align payload).value =
      (stream.adopting marker.index (payload.drop stream.configuration.markerSize),
        some marker.index) := by
  rw [align, decoded, empty]
  rfl

theorem received_passing
    (plain : SyncMarker.decode? payload stream.configuration.markerSize = none) :
    (stream.received .hunting (.ok payload)).value = (stream.passing 1, .waiting .hunting) := by
  simp [received, align_unmarked plain]

/-- A hunt ends at a marker, and the frame starts after it. -/
theorem received_adopting (empty : stream.leftover = [])
    (decoded : SyncMarker.decode? payload stream.configuration.markerSize = some marker) :
    (stream.received .hunting (.ok payload)).value =
      ((stream.adopting marker.index
        (payload.drop stream.configuration.markerSize)).beginFrame true).value := by
  simp [received, align_marked empty decoded]

theorem Gathers.of_leaving (gathers : Gathers (stream.leaving rest) bytes started state) :
    Gathers stream bytes started state := by
  cases gathers with
  | short short => exact .short short
  | whole enough => exact .whole enough

theorem gathers_adopted (stream : OutputStream) :
    Gathers stream stream.leftover true (stream.beginFrame true).value :=
  stream.settle_gathers stream.leftover true

/-- Once its frame has started a read takes every payload for data. -/
theorem received_continuation (room : held.length < stream.layer.frameSize) (payload : Bytes) :
    Gathers stream (held ++ payload) true
      ((stream.leaving []).received (.assembling held true) (.ok payload)).value := by
  have placed := (stream.leaving []).place_gathers rfl room payload payload.length
  apply Gathers.of_leaving
  simpa [received, receivePayload] using placed

/-- At the start of a frame a payload without a marker is data, too. -/
theorem received_unmarked
    (plain : SyncMarker.decode? payload stream.configuration.markerSize = none) :
    stream.received (.assembling held false) (.ok payload) =
      stream.received (.assembling held true) (.ok payload) := by
  simp [received, receivePayload, plain]

/-- At the start of a frame a marker is taken off, and its index noted. -/
theorem received_start (enabled : stream.configuration.syncEnabled = true)
    (empty : stream.leftover = []) (room : held.length < stream.layer.frameSize)
    (decoded : SyncMarker.decode? payload stream.configuration.markerSize = some marker) :
    Gathers (stream.observe marker.index).value
      (held ++ payload.drop stream.configuration.markerSize) true
      (stream.received (.assembling held false) (.ok payload)).value := by
  have placed := place_gathers (stream.observe marker.index).value
    ((stream.observe_leftover marker.index).trans empty)
    ((stream.observe_layer marker.index).symm ▸ room)
    (payload.drop stream.configuration.markerSize) payload.length
  simpa [received, receivePayload, enabled, decoded] using placed

/-- Whatever else comes, a read that has started returns a frame as soon as there are enough bytes
for one, and leaves over what is too much. -/
theorem readOn_completes (active : stream.lifecycle.state = .active)
    (gathers : Gathers stream held true state)
    (enough : stream.layer.frameSize ≤ (held ++ (stream.cut datagrams).flatten).length)
    (later : List Receipt) :
    ∃ count, Shortest stream.layer.frameSize held (stream.cut datagrams) count ∧
      readOn state (datagrams.map .ok ++ later) =
        { stream := stream.leaving
            ((held ++ ((stream.cut datagrams).take count).flatten).drop stream.layer.frameSize)
          taken := (stream.cut datagrams).take count
          result? := some
            (.ok ((held ++ (stream.cut datagrams).flatten).take stream.layer.frameSize))
          remaining := (datagrams.drop count).map .ok ++ later } := by
  induction datagrams generalizing held state with
  | nil =>
    rw [cut, List.map_nil, List.flatten_nil, List.append_nil] at enough ⊢
    cases gathers with
    | short short => omega
    | whole => exact ⟨0, .zero [] enough, by rw [readOn_finished]; simp⟩
  | cons datagram datagrams ih =>
    cases gathers with
    | whole whole =>
      refine ⟨0, .zero _ whole, ?_⟩
      rw [readOn_finished, List.take_append_of_le_length whole]
      simp
    | short short =>
      have taken := received_continuation short
        (datagram.take stream.configuration.maximumPayload)
      rw [cut, List.map_cons, List.flatten_cons, ← List.append_assoc] at enough
      obtain ⟨count, shortest, rest⟩ := ih taken enough
      refine ⟨count + 1, shortest.succ short, ?_⟩
      have resting : (stream.leaving []).lifecycle.state = .active := active
      rw [List.map_cons, List.cons_append, readOn_ok resting, leaving_configuration, rest]
      simp [Advance.after, cut]

/-- Frames of twelve bytes behind markers, and the stream that they come from. -/
def marking : OutputConfiguration :=
  (OutputConfiguration.ofParameters { maximumPayload := 64, syncEnabled := true }
    ⟨"edge", .deviceToHost, 12, 1⟩).toOption.get rfl

def markingStream (isActivated isHunting : Bool) (lastIndex : UInt32)
    (statistics : OutputStatistics) : OutputStream :=
  { layer := ⟨"edge", .deviceToHost, 12, 1⟩, configuration := marking,
    lifecycle := { name := "edge", isActivated }, timeout := defaultTimeout, batchSize := 1,
    isHunting, lastIndex, statistics }

def newStream : OutputStream := markingStream true false SyncMarker.unobserved {}

def lostStream : OutputStream := markingStream true true 0 { discardedFrames := 1 }

theorem newStream_reached : Reached newStream .idle := by
  have created : create ⟨"edge", .deviceToHost, 12, 1⟩ marking 64 =
      .ok ⟨markingStream false false SyncMarker.unobserved {},
        [.outputConfigured "edge" 12 64 true 8]⟩ := rfl
  have activated : Runs (markingStream false false SyncMarker.unobserved {}) .idle
      [.activate 0 false, .settle true] [] [.ok .done] newStream .idle :=
    Runs.step (Responds.activate rfl) (Runs.step (Responds.activated rfl) Runs.done)
  exact ⟨_, _, _, _, defaultTimeout, _, _, _, created, activated⟩

theorem lostStream_reached : Reached lostStream .idle := by
  have opened : Runs newStream .idle
      [.read 12, .receive (.ok (SyncMarker.encode ⟨0⟩ 8 ++ [1, 2]))]
      [SyncMarker.encode ⟨0⟩ 8 ++ [1, 2]] [] (markingStream true false 0 {})
      (.reading (.assembling [1, 2] true)) :=
    Runs.step Responds.read (Runs.step Responds.receive Runs.done)
  have lost : Runs (markingStream true false 0 {}) (.reading (.assembling [1, 2] true))
      [.receive (.error (.timeout "receive" defaultTimeout))] []
      [.error (.timeout "receive" defaultTimeout)] lostStream .idle :=
    Runs.step Responds.receive Runs.done
  obtain ⟨_, _, _, _, _, _, _, _, created, activated⟩ := newStream_reached
  exact ⟨_, _, _, _, _, _, _, _, created, activated.append (opened.append lost)⟩

end OutputStream

end FrameStream
