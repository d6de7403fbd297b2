import FrameStream.Proofs.Checks
import FrameStream.Proofs.Payloads
import FrameStream.Proofs.Writes

namespace FrameStream

/-- The low 32 bits of a number, most significant byte first. -/
theorem wordBytes_ofNat (number : Nat) :
    wordBytes (UInt32.ofNat number) =
      [UInt8.ofNat (number >>> 24), UInt8.ofNat (number >>> 16), UInt8.ofNat (number >>> 8),
        UInt8.ofNat number] := by
  simp only [wordBytes, List.cons.injEq, and_true, ← UInt8.toNat_inj, UInt32.toNat_toUInt8,
    UInt32.toNat_shiftRight, UInt32.toNat_ofNat', UInt8.toNat_ofNat', Nat.shiftRight_eq_div_pow]
  rw [show (24 : UInt32).toNat % 32 = 24 from rfl, show (16 : UInt32).toNat % 32 = 16 from rfl,
    show (8 : UInt32).toNat % 32 = 8 from rfl]
  omega

namespace InputConfiguration

/-- The bytes that open the frame at a position: those of the signature, the number of the marker
in 32 bits, and zeros up to the size of a marker. -/
def markerBytes (configuration : InputConfiguration) (position : Nat) : Bytes :=
  if configuration.syncEnabled = true ∧ configuration.framesPerSync.toNat ∣ position then
    let number := position / configuration.framesPerSync.toNat
    [0x5A, 0x5A, 0xA5, 0xA5, UInt8.ofNat (number >>> 24), UInt8.ofNat (number >>> 16),
        UInt8.ofNat (number >>> 8), UInt8.ofNat number] ++
      List.replicate (configuration.markerSize - 8) 0
  else []

theorem header_eq_markerBytes (configuration : InputConfiguration)
    (small : position < UInt64.size) :
    configuration.header (configuration.marker? position) = configuration.markerBytes position := by
  rw [marker?_eq small, markerBytes]
  split
  · rw [header, Option.map_some, Option.getD_some, SyncMarker.encode, wordBytes_ofNat]
    rfl
  · rfl

end InputConfiguration

/-- The datagrams of a frame as they have to be on the wire. -/
structure WireImage (configuration : InputConfiguration) (position : Nat) (frame : Bytes)
    (datagrams : List Bytes) : Prop where
  /-- Only the last one is filled up with zeros, and only where frames are padded. -/
  cut :
    datagrams =
      (pieces configuration.maximumPayload (configuration.markerBytes position ++ frame)).modifyLast
        fun last =>
          if configuration.padsFrames then
            last ++ List.replicate (configuration.maximumPayload - last.length) 0
          else last
  bounds :
    ∀ datagram ∈ datagrams,
      1 ≤ datagram.length ∧ datagram.length ≤ configuration.maximumPayload
  /-- A marker never travels without data. -/
  opening :
    configuration.markerBytes position ≠ [] →
      ∃ first, datagrams.head? = some first ∧
        configuration.markerBytes position ++ frame.take 1 <+: first
  count :
    datagrams.length =
      (frame.length + (configuration.markerBytes position).length +
        configuration.maximumPayload - 1) / configuration.maximumPayload

namespace InputStream

variable {configuration : InputConfiguration} {layer : Layer} {stream : InputStream}
  {position : Nat} {frame : Bytes}

theorem wireImage_image (configuration : InputConfiguration) (small : position < UInt64.size)
    (nonempty : frame ≠ []) :
    WireImage configuration position frame
      (configuration.image (configuration.marker? position) frame) := by
  have header := configuration.header_eq_markerBytes small
  have room := configuration.length_header_lt position
  rw [header] at room
  constructor
  · rw [InputConfiguration.image, header]
    rfl
  · intro datagram member
    exact InputConfiguration.image_bounds nonempty member
  · intro _
    obtain ⟨first, found, opens⟩ :=
      configuration.head?_image (configuration.marker? position) nonempty
    rw [header] at opens
    refine ⟨first, found, List.IsPrefix.trans ?_ opens⟩
    rw [List.take_append, List.take_of_length_le (Nat.le_of_lt room),
      List.prefix_append_right_inj]
    exact List.take_prefix_take_left (by omega)
  · rw [InputConfiguration.length_image nonempty, header, Nat.add_comm]
    rfl

/-- A write starts only for a frame of the right size, in a stream that is active. -/
theorem beginWrite_cases (stream : InputStream) (frame : Bytes) :
    (∃ error, (stream.beginWrite frame).value = (stream, .finished (.error error))) ∨
      frame.length = stream.layer.frameSize ∧ stream.lifecycle.state = .active := by
  by_cases exact : frame.length = stream.layer.frameSize
  · cases ready : stream.lifecycle.ensureActive with
    | error error => exact .inl ⟨error, by simp [beginWrite, exact, ready, fail]⟩
    | ok _ => exact .inr ⟨exact, (Lifecycle.ensureActive_eq_ok _).mp ready⟩
  · exact .inl ⟨_, by simp only [beginWrite, if_pos exact]; rfl⟩

theorem beginWrite_image (counts : Counts configuration layer position position stream)
    (active : stream.lifecycle.state = .active) (positive : 0 < layer.frameSize)
    (exact : frame.length = layer.frameSize) :
    (stream.beginWrite frame).value =
      ((stream.counting position (position + 1)).proceed
        (configuration.image (configuration.marker? position) frame)).value := by
  obtain ⟨rfl, rfl, counted⟩ := counts
  have nonempty : frame ≠ [] := List.ne_nil_of_length_pos (exact ▸ positive)
  have room := Nat.le_of_lt (stream.configuration.length_header_lt position)
  rw [← InputConfiguration.payloads_eq_image room nonempty, ← beginWrite_counting active exact,
    ← counted]

/-- A successful write over a transport that accepts whole payloads sends the image of its
frame. -/
theorem write_image (counts : Counts configuration layer position position stream)
    (positive : 0 < layer.frameSize)
    (run : Writes (stream.beginWrite frame).value exchanges (next, .finished (.ok ())))
    (whole : ∀ exchange ∈ exchanges, exchange.TakesWhole) :
    frame.length = layer.frameSize ∧
      datagrams exchanges = configuration.image (configuration.marker? position) frame ∧
      Counts configuration layer (position + 1) (position + 1) next := by
  rcases stream.beginWrite_cases frame with ⟨error, failed⟩ | ⟨exact, active⟩
  · rw [failed] at run
    cases run.failed
  · rw [counts.layer_eq] at exact
    have nonempty : frame ≠ [] := List.ne_nil_of_length_pos (exact ▸ positive)
    rw [beginWrite_image counts active positive exact] at run
    have begun : Counts configuration layer position (position + 1)
        (stream.counting position (position + 1)) :=
      ⟨counts.configuration_eq, counts.layer_eq, rfl⟩
    have standing := proceed_standing begun
      (configuration.image_nonempty (configuration.marker? position) nonempty)
    exact ⟨exact, run.datagrams_eq standing whole rfl⟩

theorem write_unhindered (counts : Counts configuration layer position position stream)
    (active : stream.lifecycle.state = .active) (positive : 0 < layer.frameSize)
    (exact : frame.length = layer.frameSize) :
    ∃ exchanges next, Writes (stream.beginWrite frame).value exchanges (next, .finished (.ok ())) ∧
      (∀ exchange ∈ exchanges, exchange.TakesWhole) ∧ next.lifecycle = stream.lifecycle := by
  have nonempty : frame ≠ [] := List.ne_nil_of_length_pos (exact ▸ positive)
  have run := writes_unhindered (stream.counting position (position + 1))
    (configuration.image_nonempty (configuration.marker? position) nonempty)
  rw [← beginWrite_image counts active positive exact] at run
  exact ⟨_, _, run, fun _ => unhindered_takesWhole, rfl⟩

/-- In a run of writes each frame is sent as its image, by its place in the run. -/
theorem writesAll_images (run : WritesAll stream frames traces last)
    (counts : Counts configuration layer position position stream)
    (positive : 0 < layer.frameSize)
    (whole : ∀ exchanges ∈ traces, ∀ exchange ∈ exchanges, exchange.TakesWhole)
    (found : frames[index]? = some frame) :
    ∃ exchanges, traces[index]? = some exchanges ∧ frame.length = layer.frameSize ∧
      datagrams exchanges =
        configuration.image (configuration.marker? (position + index)) frame := by
  induction run generalizing position index with
  | done => cases found
  | signal run ih => exact ih (counts.signal _) whole found
  | write written run ih =>
    have ⟨here, after⟩ := List.forall_mem_cons.mp whole
    have ⟨exact, image, counted⟩ := write_image counts positive written here
    cases index with
    | zero =>
      cases found
      exact ⟨_, rfl, exact, image⟩
    | succ index =>
      obtain ⟨exchanges, present, sized, sent⟩ := ih counted after found
      refine ⟨exchanges, present, sized, ?_⟩
      rw [sent, Nat.add_right_comm, Nat.add_assoc]

theorem completeActivation_counts {batchSize : UInt16}
    (activation : stream.completeActivation batchSize false = .ok activated) :
    Counts stream.configuration stream.layer 0 0 activated.value ∧
      activated.value.lifecycle.state = .active := by
  unfold completeActivation Lifecycle.activate at activation
  by_cases active : stream.lifecycle.state = .active
  · rw [if_pos active] at activation
    cases activation
  · rw [if_neg active] at activation
    cases activation
    exact ⟨⟨rfl, rfl, rfl⟩, rfl⟩

/-- Where nothing gets in the way, frames of the right size can be written one after another. -/
theorem writesAll_unhindered (counts : Counts configuration layer position position stream)
    (active : stream.lifecycle.state = .active) (positive : 0 < layer.frameSize)
    (sized : ∀ frame ∈ frames, frame.length = layer.frameSize) :
    ∃ traces last, WritesAll stream frames traces last ∧
      ∀ exchanges ∈ traces, ∀ exchange ∈ exchanges, exchange.TakesWhole := by
  induction frames generalizing position stream with
  | nil => exact ⟨[], stream, .done, fun _ member => nomatch member⟩
  | cons frame frames ih =>
    have ⟨exact, rest⟩ := List.forall_mem_cons.mp sized
    obtain ⟨exchanges, next, written, here, same⟩ := write_unhindered counts active positive exact
    have ⟨_, _, counted⟩ := write_image counts positive written here
    obtain ⟨traces, last, run, after⟩ := ih counted (same ▸ active) rest
    exact ⟨exchanges :: traces, last, .write written run, List.forall_mem_cons.mpr ⟨here, after⟩⟩

/-- After an activation without `resume`, the frame at every position of a run of writes is on the
wire as the pieces of its bytes behind the marker of its position. -/
theorem wire_image {stream last : InputStream} {activated : Logged InputStream}
    {batchSize : UInt16} {frames : List Bytes} {traces : List (List Exchange)}
    (activation : stream.completeActivation batchSize false = .ok activated)
    (positive : 0 < stream.layer.frameSize)
    (run : WritesAll activated.value frames traces last)
    (whole : ∀ exchanges ∈ traces, ∀ exchange ∈ exchanges, exchange.TakesWhole)
    (small : position < UInt64.size) (found : frames[position]? = some frame) :
    ∃ exchanges, traces[position]? = some exchanges ∧
      frame.length = stream.layer.frameSize ∧
      WireImage stream.configuration position frame (datagrams exchanges) ∧
      ∀ parameters,
        InputConfiguration.ofParameters parameters stream.layer = .ok stream.configuration →
        stream.configuration.markerBytes position = [] →
        (datagrams exchanges).length = stream.configuration.packetsPerFrame := by
  have ⟨counts, _⟩ := completeActivation_counts activation
  obtain ⟨exchanges, present, sized, image⟩ := writesAll_images run counts positive whole found
  have nonempty : frame ≠ [] := List.ne_nil_of_length_pos (sized ▸ positive)
  have onWire := wireImage_image stream.configuration small nonempty
  rw [Nat.zero_add] at image
  rw [← image] at onWire
  refine ⟨exchanges, present, sized, onWire, ?_⟩
  intro parameters made unmarked
  rw [onWire.count, unmarked, sized, InputConfiguration.packetsPerFrame_eq made]
  rfl

theorem wire_image_of_two_frames :
    ∃ (stream : InputStream) (activated : Logged InputStream) (traces : List (List Exchange))
      (last : InputStream) (first second : List Exchange),
      stream.layer.frameSize = 3 ∧ stream.configuration.packetsPerFrame = 1 ∧
        stream.completeActivation 1 false = .ok activated ∧
        WritesAll activated.value [[1, 2, 3], [4, 5, 6]] traces last ∧
        traces[0]? = some first ∧ traces[1]? = some second ∧
        datagrams first =
          [[0x5A, 0x5A, 0xA5, 0xA5, 0, 0, 0, 0, 1, 2], [3, 0, 0, 0, 0, 0, 0, 0, 0, 0]] ∧
        datagrams second = [[4, 5, 6, 0, 0, 0, 0, 0, 0, 0]] := by
  let configuration : InputConfiguration :=
    { maximumPayload := 10, syncEnabled := true, markerSize := 8, padsFrames := true,
      framesPerSync := 2, packetsPerFrame := 1, buffersThreshold := 0,
      payload_pos := by decide, payload_le := by decide, marker_min := by decide,
      marker_lt := by decide, cadence_pos := by decide }
  let stream : InputStream :=
    { layer := ⟨"edge", .hostToDevice, 3, 1⟩, configuration, lifecycle := { name := "edge" },
      timeout := .zero, batchSize := 1 }
  have positive : 0 < stream.layer.frameSize := by decide
  obtain ⟨activated, activation⟩ : ∃ activated, stream.completeActivation 1 false = .ok activated :=
    ⟨_, rfl⟩
  have ⟨counts, active⟩ := completeActivation_counts activation
  have sized : ∀ frame ∈ ([[1, 2, 3], [4, 5, 6]] : List Bytes),
      frame.length = stream.layer.frameSize := by decide
  obtain ⟨traces, last, run, whole⟩ := writesAll_unhindered counts active positive sized
  have zeroth : ([[1, 2, 3], [4, 5, 6]] : List Bytes)[0]? = some [1, 2, 3] := rfl
  have first : ([[1, 2, 3], [4, 5, 6]] : List Bytes)[1]? = some [4, 5, 6] := rfl
  obtain ⟨marked, found, _, image, _⟩ :=
    wire_image activation positive run whole (by decide) zeroth
  obtain ⟨plain, present, _, image', _⟩ :=
    wire_image activation positive run whole (by decide) first
  refine ⟨stream, activated, traces, last, marked, plain, rfl, rfl, activation, run, found, present,
    image.cut.trans ?_, image'.cut.trans ?_⟩
  · simp only [stream, configuration]
    rfl
  · simp only [stream, configuration]
    rfl

end InputStream

end FrameStream
