import FrameStream.Proofs.Operations

namespace FrameStream

/-- The frame at an index of a byte string. -/
def frameAt (size : Nat) (bytes : Bytes) (index : Nat) : Bytes :=
  (bytes.drop (index * size)).take size

theorem frameAt_zero (size : Nat) (bytes : Bytes) : frameAt size bytes 0 = bytes.take size := by
  rw [frameAt, Nat.zero_mul, List.drop_zero]

namespace OutputStream

/-- An active stream without markers. -/
structure Plain (stream : OutputStream) : Prop where
  active : stream.lifecycle.state = .active
  disabled : stream.configuration.syncEnabled = false
  aligned : stream.isHunting = false

variable {stream : OutputStream} {datagrams : List Bytes}

theorem Plain.leaving (plain : Plain stream) (rest : Bytes) : Plain (stream.leaving rest) :=
  ⟨plain.active, plain.disabled, plain.aligned⟩

theorem Reached.plain (reached : Reached stream task) (active : stream.lifecycle.state = .active)
    (disabled : stream.configuration.syncEnabled = false) : Plain stream := by
  refine ⟨active, disabled, ?_⟩
  cases hunting : stream.isHunting with
  | false => rfl
  | true =>
    have enabled := reached.steady.enabled hunting
    rw [disabled] at enabled
    cases enabled

theorem Assembles.of_leaving (assembles : Assembles (stream.leaving rest) bytes state) :
    Assembles stream bytes state := by
  cases assembles with
  | short room begun => exact .short room begun
  | whole enough => exact .whole enough

namespace Plain

theorem begins (plain : Plain stream) :
    Assembles stream stream.leftover (stream.beginRead stream.layer.frameSize).value := by
  have ready := (Lifecycle.ensureActive_eq_ok _).mpr plain.active
  have started := stream.beginFrame_assembles false
  simpa [beginRead, ready, plain.aligned] using started

theorem receives (plain : Plain stream)
    (assembles : Assembles stream held (next, .waiting point))
    (within : payload.length ≤ stream.configuration.maximumPayload) :
    ∃ state, Assembles stream (held ++ payload) state ∧
      Reads (next, .waiting point) [.ok payload] [] state := by
  cases assembles with
  | short room begun =>
    have added := received_assembles (leaving_leftover stream []) room begun payload
    rcases added with added | ⟨_, enabled, _⟩
    · refine ⟨_, added.of_leaving, .receive ?_⟩
      rw [Except.map, leaving_configuration, List.take_of_length_le within]
      exact .done
    · rw [leaving_configuration, plain.disabled] at enabled
      cases enabled

/-- A read with some bytes at hand returns a frame when it has taken so many of the datagrams that
come, and not before. -/
structure Completes (stream : OutputStream) (held : Bytes) (datagrams : List Bytes)
    (state : ReadState) (taken : Nat) : Prop where
  within : taken ≤ datagrams.length
  run : Reads state ((datagrams.take taken).map .ok) []
    (stream.leaving ((held ++ (datagrams.take taken).flatten).drop stream.layer.frameSize),
      .finished (.ok ((held ++ datagrams.flatten).take stream.layer.frameSize)))
  enough : stream.layer.frameSize ≤ (held ++ (datagrams.take taken).flatten).length
  least : ∀ fewer < taken,
    (held ++ (datagrams.take fewer).flatten).length < stream.layer.frameSize

theorem completes_zero (assembles : Assembles stream held state) (datagrams : List Bytes)
    (complete : stream.layer.frameSize ≤ held.length) :
    Completes stream held datagrams state 0 := by
  have same : held ++ (datagrams.take 0).flatten = held := by simp
  refine ⟨Nat.zero_le _, ?_, by rwa [same], fun _ none => absurd none (Nat.not_lt_zero _)⟩
  rw [same, List.take_append_of_le_length complete]
  cases assembles with
  | short room => omega
  | whole => exact .done

/-- Enough datagrams complete a frame; the read takes only as many of them as it needs. -/
theorem completes (plain : Plain stream) (assembles : Assembles stream held state)
    (within : ∀ datagram ∈ datagrams, datagram.length ≤ stream.configuration.maximumPayload)
    (enough : stream.layer.frameSize ≤ (held ++ datagrams.flatten).length) :
    ∃ taken, Completes stream held datagrams state taken := by
  induction datagrams generalizing held state with
  | nil =>
    rw [List.flatten_nil, List.append_nil] at enough
    exact ⟨0, completes_zero assembles [] enough⟩
  | cons datagram datagrams ih =>
    by_cases complete : stream.layer.frameSize ≤ held.length
    · exact ⟨0, completes_zero assembles _ complete⟩
    · have ⟨fits, within⟩ := List.forall_mem_cons.mp within
      rw [List.flatten_cons, ← List.append_assoc] at enough
      cases assembles with
      | whole enough => exact absurd enough complete
      | short room begun =>
        obtain ⟨state, assembles, first⟩ := plain.receives (.short room begun) fits
        obtain ⟨taken, most, rest, reached, least⟩ := ih assembles within enough
        rw [List.append_assoc, List.append_assoc] at rest
        rw [List.append_assoc] at reached
        refine ⟨taken + 1, Nat.succ_le_succ most, first.append rest, reached, ?_⟩
        rintro (_ | fewer) earlier
        · rw [List.take_zero, List.flatten_nil, List.append_nil]
          exact room
        · have short := least fewer (Nat.lt_of_succ_lt_succ earlier)
          rwa [List.append_assoc] at short

/-- Too few datagrams for a frame are all taken. -/
theorem waits (plain : Plain stream) (assembles : Assembles stream held state)
    (within : ∀ datagram ∈ datagrams, datagram.length ≤ stream.configuration.maximumPayload)
    (few : (held ++ datagrams.flatten).length < stream.layer.frameSize) :
    ∃ started, Reads state (datagrams.map .ok) []
      (stream.leaving [], .waiting (.assembling (held ++ datagrams.flatten) started)) := by
  induction datagrams generalizing held state with
  | nil =>
    rw [List.flatten_nil, List.append_nil] at few ⊢
    cases assembles with
    | short => exact ⟨_, .done⟩
    | whole enough => omega
  | cons datagram datagrams ih =>
    have ⟨fits, within⟩ := List.forall_mem_cons.mp within
    rw [List.flatten_cons, ← List.append_assoc] at few ⊢
    cases assembles with
    | whole enough =>
      rw [List.length_append, List.length_append] at few
      omega
    | short room begun =>
      obtain ⟨state, assembles, first⟩ := plain.receives (.short room begun) fits
      obtain ⟨started, rest⟩ := ih assembles within few
      exact ⟨started, first.append rest⟩

end Plain

def ahead (stream : OutputStream) (datagrams : List Bytes) : Bytes :=
  stream.leftover ++ datagrams.flatten

def firstFrames (size : Nat) (bytes : Bytes) (count : Nat) : List (Except StreamError Bytes) :=
  (List.range count).map fun index => .ok (frameAt size bytes index)

theorem firstFrames_succ (size : Nat) (bytes : Bytes) (count : Nat) :
    firstFrames size bytes (count + 1) =
      firstFrames size bytes count ++ [.ok (frameAt size bytes count)] := by
  simp only [firstFrames, List.range_succ, List.map_append, List.map_cons, List.map_nil]

/-- The read at an index, of those from now on, has taken so many datagrams when it is over, and
leaves over this rest. -/
structure ReadsAt (stream : OutputStream) (datagrams : List Bytes) (index taken : Nat)
    (rest : Bytes) : Prop where
  within : taken ≤ datagrams.length
  run : Reads (stream.beginRead stream.layer.frameSize).value ((datagrams.take taken).map .ok)
    (firstFrames stream.layer.frameSize (stream.ahead datagrams) index)
    (stream.leaving rest,
      .finished (.ok (frameAt stream.layer.frameSize (stream.ahead datagrams) index)))
  /-- With fewer the frame would not be complete. -/
  least : ∀ fewer < taken,
    (stream.ahead (datagrams.take fewer)).length < (index + 1) * stream.layer.frameSize
  /-- What was taken and not returned is left over. -/
  balance :
    (stream.ahead (datagrams.take taken)).length =
      (index + 1) * stream.layer.frameSize + rest.length
  bounded : rest.length < stream.configuration.maximumPayload

namespace Plain

/-- One datagram more is at most a payload more. -/
theorem length_ahead_succ (stream : OutputStream)
    (within : ∀ datagram ∈ datagrams, datagram.length ≤ maximum) (taken : Nat) :
    (stream.ahead (datagrams.take (taken + 1))).length ≤
      (stream.ahead (datagrams.take taken)).length + maximum := by
  rw [ahead, ahead, List.take_add_one, List.flatten_append]
  cases found : datagrams[taken]? with
  | none => simp
  | some datagram =>
    have fits := within datagram (List.mem_of_getElem? found)
    simp only [Option.toList_some, List.flatten_cons, List.flatten_nil, List.append_nil,
      List.length_append]
    omega

theorem readsAt_zero (plain : Plain stream)
    (bounded : stream.leftover.length < stream.configuration.maximumPayload)
    (within : ∀ datagram ∈ datagrams, datagram.length ≤ stream.configuration.maximumPayload)
    (enough : stream.layer.frameSize ≤ (stream.ahead datagrams).length) :
    ∃ taken rest, ReadsAt stream datagrams 0 taken rest ∧
      rest ++ (datagrams.drop taken).flatten =
        (stream.ahead datagrams).drop stream.layer.frameSize := by
  obtain ⟨taken, most, run, reached, least⟩ := plain.completes plain.begins within enough
  have size : ((stream.ahead (datagrams.take taken)).drop stream.layer.frameSize).length =
      (stream.ahead (datagrams.take taken)).length - stream.layer.frameSize := List.length_drop
  refine ⟨taken, (stream.ahead (datagrams.take taken)).drop stream.layer.frameSize,
    ⟨most, ?_, ?_, ?_, ?_⟩, ?_⟩
  · rw [frameAt_zero]
    exact run
  · intro fewer earlier
    rw [Nat.zero_add, Nat.one_mul]
    exact least fewer earlier
  · rw [Nat.zero_add, Nat.one_mul, size, ahead]
    omega
  · rw [size]
    cases taken with
    | zero =>
      have same : stream.ahead (datagrams.take 0) = stream.leftover := by simp [ahead]
      rw [same]
      omega
    | succ taken =>
      have short := least taken (Nat.lt_succ_self taken)
      have more := length_ahead_succ stream within taken
      rw [ahead, ahead] at more
      rw [ahead]
      omega
  · rw [ahead, ahead, ← List.drop_append_of_le_length reached, List.append_assoc,
      ← List.flatten_append, List.take_append_drop]

/-- The read at any index for which there are enough bytes. -/
theorem readsAt (plain : Plain stream)
    (bounded : stream.leftover.length < stream.configuration.maximumPayload)
    (within : ∀ datagram ∈ datagrams, datagram.length ≤ stream.configuration.maximumPayload)
    (enough : (index + 1) * stream.layer.frameSize ≤ (stream.ahead datagrams).length) :
    ∃ taken rest, ReadsAt stream datagrams index taken rest ∧
      rest ++ (datagrams.drop taken).flatten =
        (stream.ahead datagrams).drop ((index + 1) * stream.layer.frameSize) := by
  induction index with
  | zero =>
    rw [Nat.zero_add, Nat.one_mul] at enough ⊢
    exact plain.readsAt_zero bounded within enough
  | succ index ih =>
    rw [Nat.succ_mul] at enough ⊢
    obtain ⟨first, rest, before, behind⟩ := ih (by omega)
    have later : ∀ datagram ∈ datagrams.drop first,
        datagram.length ≤ stream.configuration.maximumPayload :=
      fun datagram member => within datagram (List.mem_of_mem_drop member)
    have remaining : stream.layer.frameSize ≤
        ((stream.leaving rest).ahead (datagrams.drop first)).length := by
      rw [ahead, leaving_leftover, behind, List.length_drop]
      omega
    obtain ⟨second, left, next, beyond⟩ :=
      (plain.leaving rest).readsAt_zero before.bounded later remaining
    have cut (more : Nat) : datagrams.take (first + more) =
        datagrams.take first ++ (datagrams.drop first).take more := List.take_add
    have length_cut (more : Nat) :
        (stream.ahead (datagrams.take (first + more))).length =
          (index + 1) * stream.layer.frameSize +
            ((stream.leaving rest).ahead ((datagrams.drop first).take more)).length := by
      have balance := before.balance
      simp only [ahead, cut, List.flatten_append, List.length_append, leaving_leftover] at balance ⊢
      omega
    have ⟨most, run, least, balance, bounded⟩ := next
    rw [Nat.zero_add, Nat.one_mul, leaving_layer] at balance least
    refine ⟨first + second, left, ⟨?_, ?_, ?_, ?_, bounded⟩, ?_⟩
    · rw [List.length_drop] at most
      have := before.within
      omega
    · have frame : frameAt stream.layer.frameSize
          ((stream.leaving rest).ahead (datagrams.drop first)) 0 =
            frameAt stream.layer.frameSize (stream.ahead datagrams) (index + 1) := by
        rw [frameAt_zero, ahead, leaving_leftover, behind, frameAt]
      rw [leaving_layer, frame] at run
      rw [cut, List.map_append, firstFrames_succ]
      exact before.run.append (.again run)
    · intro fewer earlier
      rw [Nat.succ_mul]
      by_cases within : fewer < first
      · exact Nat.lt_of_lt_of_le (before.least fewer within) (Nat.le_add_right _ _)
      · obtain ⟨more, rfl⟩ := Nat.exists_eq_add_of_le (Nat.not_lt.mp within)
        rw [length_cut]
        exact Nat.add_lt_add_left (least more (by omega)) _
    · rw [length_cut, balance, Nat.succ_mul (index + 1), Nat.add_assoc]
    · have after := beyond
      rw [List.drop_drop, leaving_layer, ahead, leaving_leftover, behind, List.drop_drop] at after
      exact after

/-- All the frames there are bytes for; then the read after them has taken every datagram and waits
with what does not make up a frame. -/
theorem reads_all (plain : Plain stream) (positive : 0 < stream.layer.frameSize)
    (bounded : stream.leftover.length < stream.configuration.maximumPayload)
    (within : ∀ datagram ∈ datagrams, datagram.length ≤ stream.configuration.maximumPayload) :
    ∃ filled started, Reads (stream.beginRead stream.layer.frameSize).value (datagrams.map .ok)
      (firstFrames stream.layer.frameSize (stream.ahead datagrams)
        ((stream.ahead datagrams).length / stream.layer.frameSize))
      (stream.leaving [], .waiting (.assembling filled started)) := by
  have remainder := Nat.lt_mul_div_succ (stream.ahead datagrams).length positive
  have quotient := Nat.div_mul_le_self (stream.ahead datagrams).length stream.layer.frameSize
  cases count : (stream.ahead datagrams).length / stream.layer.frameSize with
  | zero =>
    rw [count, Nat.zero_add, Nat.mul_one] at remainder
    obtain ⟨started, run⟩ := plain.waits plain.begins within remainder
    exact ⟨_, started, run⟩
  | succ index =>
    rw [count] at remainder quotient
    obtain ⟨taken, rest, last, behind⟩ := plain.readsAt bounded within quotient
    have few : ((stream.leaving rest).ahead (datagrams.drop taken)).length <
        stream.layer.frameSize := by
      rw [ahead, leaving_leftover, behind, List.length_drop]
      rw [Nat.mul_comm, Nat.succ_mul (index + 1)] at remainder
      omega
    obtain ⟨started, run⟩ := (plain.leaving rest).waits (plain.leaving rest).begins
      (fun datagram member => within datagram (List.mem_of_mem_drop member)) few
    have whole := last.run.append (.again run)
    rw [← List.map_append, List.take_append_drop, ← firstFrames_succ] at whole
    exact ⟨_, started, whole⟩

theorem reads_failure (plain : Plain stream) (positive : 0 < stream.layer.frameSize)
    (filled : Bytes) (started : Bool) (error : StreamError) :
    ∃ next point, Reads (stream.leaving [], .waiting (.assembling filled started))
      [.error error] [.error error] (next, .waiting point) := by
  have lost : Plain ((stream.leaving []).loseFrame error filled).value := by
    unfold loseFrame
    split
    · refine ⟨plain.active, plain.disabled, ?_⟩
      change (stream.isHunting || stream.configuration.syncEnabled) = false
      rw [plain.aligned, plain.disabled]
      rfl
    · exact plain.leaving []
  have fresh : ∃ next point, (((stream.leaving []).loseFrame error filled).value.beginRead
      ((stream.leaving []).loseFrame error filled).value.layer.frameSize).value =
        (next, .waiting point) := by
    have begins := lost.begins
    rw [loseFrame_leftover, leaving_leftover] at begins
    generalize (beginRead _ _).value = state at begins
    cases begins with
    | short => exact ⟨_, _, rfl⟩
    | whole enough =>
      rw [loseFrame_layer, leaving_layer, List.length_nil] at enough
      omega
  obtain ⟨next, point, fresh⟩ := fresh
  refine ⟨next, point, .receive (.again ?_)⟩
  rw [fresh]
  exact .done

end Plain

/-- Reads that follow each other cut the bytes received into frames. -/
structure ReadsBytes (stream : OutputStream) (datagrams : List Bytes) : Prop where
  each :
    ∀ index < (stream.ahead datagrams).length / stream.layer.frameSize,
      ∃ taken rest, ReadsAt stream datagrams index taken rest
  /-- A receive that fails after the last datagram ends the first read that does not succeed. -/
  all : ∀ error results,
    (∃ last point, Reads (stream.beginRead stream.layer.frameSize).value
        (datagrams.map .ok ++ [.error error]) results (last, .waiting point)) ↔
      results = firstFrames stream.layer.frameSize (stream.ahead datagrams)
        ((stream.ahead datagrams).length / stream.layer.frameSize) ++ [.error error]

/-- A stream without markers returns the bytes it receives, however they are cut. -/
theorem Plain.readsBytes (plain : Plain stream) (positive : 0 < stream.layer.frameSize)
    (bounded : stream.leftover.length < stream.configuration.maximumPayload)
    (within : ∀ datagram ∈ datagrams, datagram.length ≤ stream.configuration.maximumPayload) :
    ReadsBytes stream datagrams := by
  constructor
  · intro index earlier
    have enough : (index + 1) * stream.layer.frameSize ≤ (stream.ahead datagrams).length :=
      (Nat.le_div_iff_mul_le positive).mp earlier
    obtain ⟨taken, rest, readsAt, _⟩ := plain.readsAt bounded within enough
    exact ⟨taken, rest, readsAt⟩
  · intro error results
    obtain ⟨filled, started, frames⟩ := plain.reads_all positive bounded within
    obtain ⟨next, point, failure⟩ := plain.reads_failure positive filled started error
    have whole := frames.append failure
    constructor
    · rintro ⟨last, point', run⟩
      exact (run.unique whole).1
    · rintro rfl
      exact ⟨next, point, whole⟩

end OutputStream

end FrameStream
