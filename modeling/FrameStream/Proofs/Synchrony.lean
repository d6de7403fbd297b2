import FrameStream.Proofs.Checks
import FrameStream.Proofs.Payloads
import FrameStream.Proofs.Transit

namespace FrameStream

namespace InputConfiguration

/-- The index of the last marker among the first frames; without one, what a reader holds before it
has seen any. -/
def lastIndex (configuration : InputConfiguration) (count : Nat) : UInt32 :=
  (((List.range count).filterMap configuration.marker?).getLast?.map SyncMarker.index).getD
    SyncMarker.unobserved

/-- A frame that is sent without a marker, but looks as if it opened with one. -/
def Imitates (configuration : InputConfiguration) (position : Nat) (frame : Bytes) : Prop :=
  configuration.syncEnabled = true ∧ configuration.marks position = false ∧
    (SyncMarker.decode? frame configuration.markerSize).isSome = true

instance (configuration : InputConfiguration) (position : Nat) (frame : Bytes) :
    Decidable (configuration.Imitates position frame) :=
  inferInstanceAs (Decidable (_ ∧ _ ∧ _))

variable {configuration : InputConfiguration} {count : Nat} {marker : SyncMarker}

theorem lastIndex_of_marker (marked : configuration.marker? count = some marker) :
    configuration.lastIndex (count + 1) = marker.index := by
  simp [lastIndex, List.range_succ, List.filterMap_append, marked]

theorem lastIndex_of_unmarked (unmarked : configuration.marker? count = none) :
    configuration.lastIndex (count + 1) = configuration.lastIndex count := by
  simp [lastIndex, List.range_succ, List.filterMap_append, unmarked]

/-- The index after the last one is that of the next marker, however often indices have wrapped. -/
theorem successor_lastIndex (configuration : InputConfiguration) (count : Nat) :
    SyncMarker.successor (configuration.lastIndex count) =
      UInt32.ofNat (configuration.markersBefore count) := by
  induction count with
  | zero => simp [lastIndex, markersBefore, SyncMarker.successor_unobserved]
  | succ count ih =>
    rw [markersBefore_succ]
    cases found : configuration.marker? count with
    | none =>
      rw [lastIndex_of_unmarked found, ih, marker?_eq_none.mp found]
      rfl
    | some marker =>
      obtain ⟨marked, index⟩ := marker?_eq_some.mp found
      rw [lastIndex_of_marker found, index, if_pos marked, UInt32.ofNat_add]
      rfl

end InputConfiguration

namespace OutputStream

/-- A stream that has received the first frames, and nothing else. -/
structure InStep (sending : InputConfiguration) (configuration : OutputConfiguration)
    (layer : Layer) (count : Nat) (stream : OutputStream) : Prop extends
    Receiving configuration layer stream where
  aligned : stream.isHunting = false
  gapless : stream.statistics.gaps = 0
  lastIndex_eq : stream.lastIndex = sending.lastIndex count

variable {sending : InputConfiguration} {configuration : OutputConfiguration} {layer : Layer}
  {stream : OutputStream} {count : Nat} {bytes frame : Bytes} {marker : SyncMarker}

theorem completeActivation_inStep {batchSize : UInt16} (sending : InputConfiguration)
    (activation : stream.completeActivation batchSize false = .ok activated)
    (gapless : stream.statistics.gaps = 0) :
    InStep sending stream.configuration stream.layer 0 activated.value := by
  have ⟨receiving, aligned⟩ := completeActivation_receiving activation
  obtain ⟨_, _, activation⟩ := ok_of_bind activation
  cases activation
  exact { receiving with aligned, gapless, lastIndex_eq := rfl }

/-- The marker of the next frame is the one expected. -/
theorem InStep.observe (inStep : InStep sending configuration layer count stream)
    (marked : sending.marker? count = some marker) :
    InStep sending configuration layer (count + 1) (stream.observe marker.index).value := by
  have index : marker.index = SyncMarker.successor stream.lastIndex := by
    rw [inStep.lastIndex_eq, sending.successor_lastIndex]
    exact (InputConfiguration.marker?_eq_some.mp marked).2
  have observed : (stream.observe marker.index).value =
      { stream with lastIndex := marker.index } := by
    simp only [OutputStream.observe, if_pos index]
  refine ⟨inStep.toReceiving.observe marker.index, ?_, ?_, ?_⟩ <;> rw [observed]
  · exact inStep.aligned
  · exact inStep.gapless
  · exact (InputConfiguration.lastIndex_of_marker marked).symm

/-- A frame without a marker leaves no trace. -/
theorem InStep.skip (inStep : InStep sending configuration layer count stream)
    (unmarked : sending.marker? count = none) :
    InStep sending configuration layer (count + 1) stream :=
  { inStep with
    lastIndex_eq :=
      inStep.lastIndex_eq.trans (InputConfiguration.lastIndex_of_unmarked unmarked).symm }

section Cut

variable (receiving : Receiving configuration layer stream) (aligned : stream.isHunting = false)
  (positive : 0 < layer.frameSize)
include receiving aligned positive

/-- A read of bytes in pieces is decided by the first of them; the rest is data. -/
theorem reads_pieces (nonempty : bytes ≠ []) (started : Receiving configuration layer next)
    (received : (stream.received (.assembling [] false)
        (.ok (bytes.take configuration.maximumPayload))).value = (next.settle data true).value)
    (room : data.length + (bytes.drop configuration.maximumPayload).length ≤ layer.frameSize) :
    Reads (stream.beginRead stream.layer.frameSize).value
      ((pieces configuration.maximumPayload bytes).map .ok) []
      (next.settle (data ++ bytes.drop configuration.maximumPayload) true).value := by
  have fresh : stream.freshPoint = .assembling [] false := by simp [freshPoint, aligned]
  have whole := flatten_pieces configuration.payload_pos (bytes.drop configuration.maximumPayload)
  rw [beginRead_fresh receiving positive, fresh,
    pieces_of_ne_nil configuration.payload_pos nonempty]
  refine .receive_within receiving (by rw [List.length_take]; omega) ?_
  rw [received]
  conv in data ++ bytes.drop configuration.maximumPayload => rw [← whole]
  refine reads_rest started ?_ ?_ (by rwa [whole])
  · intro piece member
    exact (pieces_bounds configuration.payload_pos member).2
  · intro piece member
    exact List.ne_nil_of_length_pos (pieces_bounds configuration.payload_pos member).1

theorem reads_unmarked (nonempty : bytes ≠ []) (room : bytes.length ≤ layer.frameSize)
    (plain : configuration.syncEnabled = true →
      SyncMarker.decode? bytes configuration.markerSize = none) :
    Reads (stream.beginRead stream.layer.frameSize).value
      ((pieces configuration.maximumPayload bytes).map .ok) []
      (stream.settle bytes true).value := by
  have parts := congrArg List.length (List.take_append_drop configuration.maximumPayload bytes)
  rw [List.length_append] at parts
  have received : (stream.received (.assembling [] false)
      (.ok (bytes.take configuration.maximumPayload))).value =
        (stream.settle ([] ++ bytes.take configuration.maximumPayload) true).value :=
    received_data receiving (by rw [List.length_nil]; omega) fun looked => by
      have enabled := (Bool.and_eq_true_iff.mp looked).1
      rw [SyncMarker.decode?_take _ (Nat.le_of_lt (configuration.marker_lt enabled))]
      exact plain enabled
  have run := reads_pieces receiving aligned positive nonempty receiving received
    (by rw [List.nil_append]; omega)
  rwa [List.nil_append, List.take_append_drop] at run

theorem reads_marked (enabled : configuration.syncEnabled = true)
    (decoded : SyncMarker.decode? bytes configuration.markerSize = some marker)
    (room : (bytes.drop configuration.markerSize).length ≤ layer.frameSize) :
    Reads (stream.beginRead stream.layer.frameSize).value
      ((pieces configuration.maximumPayload bytes).map .ok) []
      ((stream.observe marker.index).value.settle
        (bytes.drop configuration.markerSize) true).value := by
  have small := Nat.le_of_lt (configuration.marker_lt enabled)
  have ⟨least, long⟩ := SyncMarker.length_of_decode? decoded
  have nonempty : bytes ≠ [] := by
    rintro rfl
    simp [SyncMarker.minimumSize] at least long
    omega
  have parts : (bytes.take configuration.maximumPayload).drop configuration.markerSize ++
      bytes.drop configuration.maximumPayload = bytes.drop configuration.markerSize := by
    conv => rhs; rw [← List.take_append_drop configuration.maximumPayload bytes]
    rw [List.drop_append_of_le_length (by rw [List.length_take]; omega)]
  have lengths := congrArg List.length parts
  rw [List.length_append] at lengths
  have opens : SyncMarker.decode? (bytes.take configuration.maximumPayload)
      configuration.markerSize = some marker := by
    rw [SyncMarker.decode?_take _ small]
    exact decoded
  have received : (stream.received (.assembling [] false)
      (.ok (bytes.take configuration.maximumPayload))).value = _ :=
    received_marker receiving enabled opens (by rw [List.length_nil]; omega)
  have run := reads_pieces receiving aligned positive nonempty (receiving.observe marker.index)
    received (by rw [List.nil_append]; omega)
  rwa [List.nil_append, parts] at run

end Cut

section Image

variable (inStep : InStep sending configuration layer count stream)
  (framing : configuration.toFraming = sending.toFraming) (unpadded : sending.padsFrames = false)
  (positive : 0 < layer.frameSize) (exact : frame.length = layer.frameSize)
include inStep framing unpadded positive exact

/-- A frame that does not imitate a marked one is read as it was written. -/
theorem reads_image (plain : ¬ sending.Imitates count frame) :
    ∃ next, Reads (stream.beginRead stream.layer.frameSize).value
        ((sending.image (sending.marker? count) frame).map .ok) [] (next, .finished (.ok frame)) ∧
      InStep sending configuration layer (count + 1) next := by
  have nonempty : frame ≠ [] := List.ne_nil_of_length_pos (exact ▸ positive)
  rw [InputConfiguration.image_of_unpadded unpadded nonempty, ← framing]
  cases found : sending.marker? count with
  | none =>
    have next := inStep.skip found
    have unmarked := InputConfiguration.marker?_eq_none.mp found
    have run := reads_unmarked inStep.toReceiving inStep.aligned positive nonempty
      (Nat.le_of_eq exact) fun enabled => by
        rw [framing] at enabled ⊢
        exact Option.not_isSome_iff_eq_none.mp fun looks => plain ⟨enabled, unmarked, looks⟩
    rw [settle_of_eq inStep.toReceiving true exact] at run
    exact ⟨stream, run, next⟩
  | some marker =>
    have next := inStep.observe found
    have enabled := InputConfiguration.syncEnabled_of_marks
      (InputConfiguration.marker?_eq_some.mp found).1
    have decoded := SyncMarker.decode?_encode marker frame (sending.marker_min enabled)
    have data : (marker.encode sending.markerSize ++ frame).drop sending.markerSize = frame := by
      conv in List.drop _ => rw [← marker.encode_length (sending.marker_min enabled)]
      exact List.drop_left
    rw [← framing] at decoded data enabled
    have run := reads_marked inStep.toReceiving inStep.aligned positive enabled decoded
      (by rw [data]; exact Nat.le_of_eq exact)
    rw [data, settle_of_eq next.toReceiving true exact] at run
    rw [framing] at run ⊢
    exact ⟨_, run, next⟩

theorem reads_imitation (imitates : sending.Imitates count frame) :
    ∃ last point, Reads (stream.beginRead stream.layer.frameSize).value
      ((sending.image (sending.marker? count) frame).map .ok) [] (last, .waiting point) := by
  obtain ⟨enabled, unmarked, looks⟩ := imitates
  obtain ⟨marker, decoded⟩ := Option.isSome_iff_exists.mp looks
  have nonempty : frame ≠ [] := List.ne_nil_of_length_pos (exact ▸ positive)
  rw [InputConfiguration.image_of_unpadded unpadded nonempty,
    InputConfiguration.header_of_unmarked unmarked, List.nil_append, ← framing]
  rw [← framing] at enabled decoded
  have ⟨least, long⟩ := SyncMarker.length_of_decode? decoded
  have short : (frame.drop configuration.markerSize).length < layer.frameSize := by
    rw [List.length_drop]
    simp only [SyncMarker.minimumSize] at least
    omega
  have run := reads_marked inStep.toReceiving inStep.aligned positive enabled decoded
    (Nat.le_of_lt short)
  rw [settle_of_lt (inStep.toReceiving.observe marker.index) true short] at run
  exact ⟨_, _, run⟩

end Image

end OutputStream

end FrameStream
