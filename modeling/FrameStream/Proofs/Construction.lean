import FrameStream.Proofs.Handover
import FrameStream.Proofs.InputOperations
import FrameStream.Proofs.Renewal

/-!
What a stream has to do with the layer it is made for. A layer is looked at when a configuration is
checked and again when a stream is made, which may be of another layer. The first look takes in the
direction and the frames, the second only the direction: so a stream can be made of a layer whose
frames are empty, or are not cut into as many payloads as its configuration says.
-/

namespace FrameStream

/-- A framing is within its bounds and those of a path. -/
structure Framing.Fits (framing : Framing) (pathLimit : Nat) : Prop where
  payload_pos : 1 ≤ framing.maximumPayload
  payload_le : framing.maximumPayload ≤ 1472
  path_le : framing.maximumPayload ≤ pathLimit
  marker_min : framing.syncEnabled = true → 8 ≤ framing.markerSize
  marker_lt : framing.syncEnabled = true → framing.markerSize < framing.maximumPayload

structure InputStream.FitsPath (stream : InputStream) (pathLimit : Nat) : Prop where
  direction_eq : stream.layer.direction = .hostToDevice
  framing : stream.configuration.Fits pathLimit
  cadence : stream.configuration.syncEnabled = true →
    1 ≤ stream.configuration.framesPerSync.toNat

structure OutputStream.FitsPath (stream : OutputStream) (pathLimit : Nat) : Prop where
  direction_eq : stream.layer.direction = .deviceToHost
  framing : stream.configuration.Fits pathLimit

/-- The frames of its layer are as the configuration of a stream has them. -/
structure InputStream.Consistent (stream : InputStream) (pathLimit : Nat) : Prop
    extends stream.FitsPath pathLimit where
  frame_pos : 1 ≤ stream.layer.frameSize
  packets : stream.configuration.packetsPerFrame =
    pieceCount stream.configuration.maximumPayload stream.layer.frameSize

structure OutputStream.Consistent (stream : OutputStream) (pathLimit : Nat) : Prop
    extends stream.FitsPath pathLimit where
  frame_pos : 1 ≤ stream.layer.frameSize

theorem pieceCount_pos (positive : 0 < size) : 0 < pieceCount size length ↔ 0 < length := by
  rw [pieceCount, Nat.div_pos_iff]
  omega

theorem Layer.frame_pos_of_check {layer : Layer} {direction : Direction}
    (checked : layer.check direction = .ok ()) : 1 ≤ layer.frameSize := by
  unfold Layer.check at checked
  split at checked
  · cases checked
  · split at checked
    · cases checked
    · exact Nat.one_le_iff_ne_zero.mpr ‹_›

/-- A configuration is made only for a layer whose frames are not empty. -/
theorem InputConfiguration.frame_pos {parameters : InputParameters}
    {configuration : InputConfiguration}
    (checked : ofParameters parameters layer = .ok configuration) : 1 ≤ layer.frameSize := by
  obtain ⟨_, served, _⟩ := ok_of_bind checked
  exact Layer.frame_pos_of_check served

theorem Framing.checkPath_eq_ok {framing : Framing} :
    framing.checkPath pathLimit = .ok () ↔ framing.maximumPayload ≤ pathLimit := by
  unfold Framing.checkPath
  split
  · exact iff_of_false nofun (by omega)
  · exact iff_of_true rfl (by omega)

/-- What is not looked at when a stream is made, its configuration has been checked for. -/
theorem Framing.fits_of_le {framing : Framing} (within : framing.maximumPayload ≤ pathLimit) :
    framing.Fits pathLimit :=
  ⟨framing.payload_pos, framing.payload_le, within, framing.marker_min, framing.marker_lt⟩

theorem guarded_ok_iff {refuses : Prop} [Decidable refuses] {check : Except fault Unit} :
    (∃ made, (do
      if refuses then throw reason
      check
      return value) = Except.ok made) ↔ ¬ refuses ∧ check = .ok () := by
  by_cases refused : refuses
  · simp [refused, bind, Except.bind, throw, throwThe, MonadExceptOf.throw]
  · cases check <;> simp [refused, bind, Except.bind, pure, Except.pure]

theorem InputStream.create_ok_iff {layer : Layer} {configuration : InputConfiguration} :
    (∃ made, create layer configuration pathLimit limiter = .ok made) ↔
      layer.direction = .hostToDevice ∧ configuration.maximumPayload ≤ pathLimit :=
  guarded_ok_iff.trans (and_congr Decidable.not_not Framing.checkPath_eq_ok)

theorem OutputStream.create_ok_iff {layer : Layer} {configuration : OutputConfiguration} :
    (∃ made, create layer configuration pathLimit = .ok made) ↔
      layer.direction = .deviceToHost ∧ configuration.maximumPayload ≤ pathLimit :=
  guarded_ok_iff.trans (and_congr Decidable.not_not Framing.checkPath_eq_ok)

theorem InputStream.fitsPath_of_create {layer : Layer} {configuration : InputConfiguration}
    (created : create layer configuration pathLimit limiter = .ok made) :
    made.value.FitsPath pathLimit := by
  have ⟨directed, within⟩ := create_ok_iff.mp ⟨made, created⟩
  rw [create_value created]
  refine ⟨directed, Framing.fits_of_le within, fun enabled => ?_⟩
  have positive := configuration.cadence_pos enabled
  exact Nat.one_le_iff_ne_zero.mpr fun zero => positive (UInt32.toNat_inj.mp zero)

theorem OutputStream.fitsPath_of_create {layer : Layer} {configuration : OutputConfiguration}
    (created : create layer configuration pathLimit = .ok made) :
    made.value.FitsPath pathLimit := by
  have ⟨directed, within⟩ := create_ok_iff.mp ⟨made, created⟩
  rw [create_value created]
  exact ⟨directed, Framing.fits_of_le within⟩

theorem InputConsequence.stream_ofWrite (state : InputStream.WriteState) :
    (ofWrite state).stream = state.1 := by
  obtain ⟨stream, point | result⟩ := state <;> rfl

namespace InputStream

/-- One stream becomes another by operations and what happens meanwhile, and is idle then. -/
def Becomes (origin stream : InputStream) : Prop :=
  ∃ incidents replies, Runs origin .idle incidents replies stream .idle

/-- Every write that succeeds sends something. -/
def SendsFrames (origin : InputStream) : Prop :=
  ∀ stream frame exchanges next, origin.Becomes stream →
    Writes (stream.beginWrite frame).value exchanges (next, .finished (.ok ())) →
      ∃ datagram ∈ datagrams exchanges, datagram ≠ []

/-- No write that succeeds uses up an index if it sends nothing. -/
def SparesIndices (origin : InputStream) : Prop :=
  ∀ stream frame exchanges next, origin.Becomes stream →
    Writes (stream.beginWrite frame).value exchanges (next, .finished (.ok ())) →
      datagrams exchanges = [] → next.syncIndex = stream.syncIndex

variable {origin stream next : InputStream} {frame : Bytes} {exchanges : List Exchange}

theorem Responds.identity_eq {task : InputTask} {incident : InputIncident}
    {consequence : InputConsequence} (responds : Responds stream task incident consequence) :
    consequence.stream.identity = stream.identity := by
  cases responds with
  | signal => exact stream.signal_identity _
  | write => rw [InputConsequence.stream_ofWrite, beginWrite_identity]
  | reserve => rw [InputConsequence.stream_ofWrite, granted_identity]
  | rest => rw [InputConsequence.stream_ofWrite, rested_identity]
  | send => rw [InputConsequence.stream_ofWrite, delivered_identity]
  | activated activation => exact stream.completeActivation_identity activation
  | setTimeout | unready | activate | expire | overtaken => rfl

theorem Runs.identity_eq {task final : InputTask} {incidents : List InputIncident}
    {replies : List (Except StreamError Reply)}
    (run : Runs stream task incidents replies next final) : next.identity = stream.identity := by
  induction run with
  | done => rfl
  | step responds _ inductionHypothesis => rw [inductionHypothesis, responds.identity_eq]

theorem Becomes.identity_eq (becomes : origin.Becomes stream) :
    stream.identity = origin.identity := by
  obtain ⟨_, _, run⟩ := becomes
  exact run.identity_eq

theorem becomes_activated (stopped : origin.lifecycle.state ≠ .active) :
    ∃ batchSize, origin.Becomes (origin.activated batchSize false) := by
  have least : 0 ≤ origin.layer.maximumBatchSize := UInt16.zero_le
  obtain ⟨batchSize, allowed⟩ := Layer.batchSize_of_le least
  have ready : origin.beginActivation 0 = .ok batchSize := by
    rw [beginActivation, if_neg stopped, allowed]
  obtain ⟨_, activation⟩ := completeActivation_of_stopped stopped batchSize false
  exact ⟨batchSize, _, _, .step (.activate ready) (.step (.activated activation) .done)⟩

theorem accepted_of_write
    (run : Writes (stream.beginWrite frame).value exchanges (next, .finished (.ok ()))) :
    frame.length = stream.layer.frameSize ∧ stream.lifecycle.state = .active := by
  rcases stream.beginWrite_cases frame with ⟨error, refused⟩ | accepted
  · rw [refused] at run
    cases run.failed
  · exact accepted

theorem sends_of_write (positive : 1 ≤ stream.layer.frameSize)
    (run : Writes (stream.beginWrite frame).value exchanges (next, .finished (.ok ()))) :
    ∃ datagram ∈ datagrams exchanges, datagram ≠ [] := by
  have ⟨sized, active⟩ := accepted_of_write run
  have nonempty : frame ≠ [] := List.ne_nil_of_length_pos (sized ▸ positive)
  rw [beginWrite_due active sized] at run
  have taken := (run.handsOver (stream.due_nonempty frame)).succeeds_iff.mp rfl
  rw [due_eq_image active sized positive] at taken
  have ⟨_, _, image⟩ := stream.configuration.flatten_image stream.nextMarker? nonempty
  refine List.flatten_ne_nil_iff.mp ?_
  change takenBytes exchanges ≠ []
  rw [taken, image]
  simp [nonempty]

/-- A write of an empty frame has nothing to send, but a marker that is due for it is used up. -/
theorem write_of_empty (empty : stream.layer.frameSize = 0)
    (run : Writes (stream.beginWrite frame).value exchanges (next, .finished (.ok ()))) :
    datagrams exchanges = [] ∧ next.syncIndex = stream.drawn.syncIndex := by
  have ⟨sized, active⟩ := accepted_of_write run
  have vacant : frame = [] := List.eq_nil_of_length_eq_zero (sized.trans empty)
  rw [beginWrite_due active sized, due, if_neg (fun accepted => accepted.2.2 vacant)] at run
  obtain ⟨⟨lifecycle, same⟩, silent, _⟩ := run.of_finished
  cases same
  exact ⟨silent, rfl⟩

theorem write_empty (empty : stream.layer.frameSize = 0)
    (active : stream.lifecycle.state = .active) :
    ∃ next, Writes (stream.beginWrite []).value [] (next, .finished (.ok ())) := by
  have sized : ([] : Bytes).length = stream.layer.frameSize := empty.symm
  rw [beginWrite_due active sized, due, if_neg (fun accepted => accepted.2.2 rfl)]
  exact ⟨_, .done⟩

/-- A stream that counts anew starts with a marker, if it has any. -/
theorem drawn_activated (enabled : stream.configuration.syncEnabled = true) (batchSize : UInt16) :
    (stream.activated batchSize false).drawn.syncIndex ≠
      (stream.activated batchSize false).syncIndex := by
  have marked : (stream.activated batchSize false).nextMarker?.isSome = true := by
    simp [nextMarker?, activated, enabled]
  have advances : SyncMarker.successor 0 ≠ 0 := by decide
  rw [drawn, if_pos marked]
  exact advances

theorem drawn_of_disabled (disabled : stream.configuration.syncEnabled = false) :
    stream.drawn = stream := by
  simp [drawn, nextMarker?, disabled]

section New

variable (stopped : origin.lifecycle.state ≠ .active)
include stopped

/-- A new stream with empty frames comes to write one without sending anything. -/
theorem writes_nothing (empty : origin.layer.frameSize = 0) :
    ∃ batchSize next, origin.Becomes (origin.activated batchSize false) ∧
      Writes ((origin.activated batchSize false).beginWrite []).value []
        (next, .finished (.ok ())) := by
  have ⟨batchSize, becomes⟩ := becomes_activated stopped
  have unsized : (origin.activated batchSize false).layer.frameSize = 0 := empty
  have ⟨next, run⟩ := write_empty unsized rfl
  exact ⟨batchSize, next, becomes, run⟩

theorem sendsFrames_iff : origin.SendsFrames ↔ 1 ≤ origin.layer.frameSize := by
  constructor
  · intro sends
    rcases Nat.eq_zero_or_pos origin.layer.frameSize with empty | positive
    · obtain ⟨batchSize, next, becomes, run⟩ := writes_nothing stopped empty
      obtain ⟨_, member, _⟩ := sends _ _ _ _ becomes run
      cases member
    · exact positive
  · intro positive stream frame exchanges next becomes run
    have same := congrArg (·.1.frameSize) becomes.identity_eq
    exact sends_of_write (same ▸ positive) run

theorem sparesIndices_iff :
    origin.SparesIndices ↔
      1 ≤ origin.layer.frameSize ∨ origin.configuration.syncEnabled = false := by
  constructor
  · intro spares
    rcases Nat.eq_zero_or_pos origin.layer.frameSize with empty | positive
    · obtain ⟨batchSize, next, becomes, run⟩ := writes_nothing stopped empty
      have unsized : (origin.activated batchSize false).layer.frameSize = 0 := empty
      have used := (write_of_empty unsized run).2
      rw [spares _ _ _ _ becomes run rfl] at used
      refine .inr (Bool.eq_false_iff.mpr fun enabled => ?_)
      exact drawn_activated enabled batchSize used.symm
    · exact .inl positive
  · intro fits stream frame exchanges next becomes run silent
    have same := becomes.identity_eq
    have layer : stream.layer = origin.layer := congrArg (·.1) same
    have configuration : stream.configuration = origin.configuration := congrArg (·.2.1) same
    rcases Nat.eq_zero_or_pos origin.layer.frameSize with empty | positive
    · have disabled := fits.resolve_left (by omega)
      have kept := (write_of_empty (layer ▸ empty) run).2
      rwa [drawn_of_disabled (configuration ▸ disabled)] at kept
    · obtain ⟨_, member, _⟩ := sends_of_write (layer ▸ positive) run
      simp [silent] at member

end New

section Made

variable {parameters : InputParameters} {checked layer : Layer}
  {configuration : InputConfiguration} {limiter : LimiterKind} {made : Logged InputStream}
  (configured : InputConfiguration.ofParameters parameters checked = .ok configuration)
  (created : create layer configuration pathLimit limiter = .ok made)
include created

theorem stopped_of_create : made.value.lifecycle.state ≠ .active := by
  rw [create_value created]
  exact nofun

include configured

/-- A stream fits its layer if this has as many packets as the one that was checked. -/
theorem consistent_iff :
    made.value.Consistent pathLimit ↔
      pieceCount configuration.maximumPayload layer.frameSize =
        pieceCount configuration.maximumPayload checked.frameSize := by
  have packets := InputConfiguration.packetsPerFrame_eq configured
  have fits := fitsPath_of_create created
  rw [create_value created] at fits ⊢
  constructor
  · intro consistent
    exact consistent.packets.symm.trans packets
  · intro same
    have some := (pieceCount_pos configuration.payload_pos).mpr
      (InputConfiguration.frame_pos configured)
    have positive := (pieceCount_pos configuration.payload_pos).mp (same ▸ some)
    exact { fits with frame_pos := positive, packets := packets.trans same.symm }

end Made

end InputStream

/-- What is looked at when a stream is made is the direction of its layer and the limit of its path;
its configuration is within its bounds anyway. The stream fits its layer if this has as many packets
as the one for which the configuration was checked, so if they are the same. It sends every frame if
there are bytes in it, and otherwise uses up the indices of markers for nothing. -/
theorem streams_fit_layers_iff (checked layer : Layer) (pathLimit : Nat) :
    (∀ (parameters : InputParameters) (configuration : InputConfiguration) (limiter : LimiterKind),
      InputConfiguration.ofParameters parameters checked = .ok configuration →
        ((∃ made, InputStream.create layer configuration pathLimit limiter = .ok made) ↔
          layer.direction = .hostToDevice ∧ configuration.maximumPayload ≤ pathLimit) ∧
        ∀ made, InputStream.create layer configuration pathLimit limiter = .ok made →
          made.value.layer = layer ∧ made.value.configuration = configuration ∧
          made.value.FitsPath pathLimit ∧
          (made.value.Consistent pathLimit ↔
            pieceCount configuration.maximumPayload layer.frameSize =
              pieceCount configuration.maximumPayload checked.frameSize) ∧
          (made.value.SendsFrames ↔ 1 ≤ layer.frameSize) ∧
          (made.value.SparesIndices ↔
            1 ≤ layer.frameSize ∨ configuration.syncEnabled = false)) ∧
    ∀ (parameters : OutputParameters) (configuration : OutputConfiguration),
      OutputConfiguration.ofParameters parameters checked = .ok configuration →
        ((∃ made, OutputStream.create layer configuration pathLimit = .ok made) ↔
          layer.direction = .deviceToHost ∧ configuration.maximumPayload ≤ pathLimit) ∧
        ∀ made, OutputStream.create layer configuration pathLimit = .ok made →
          made.value.layer = layer ∧ made.value.configuration = configuration ∧
          made.value.FitsPath pathLimit ∧
          (made.value.Consistent pathLimit ↔ 1 ≤ layer.frameSize) := by
  constructor
  · intro parameters configuration limiter configured
    refine ⟨InputStream.create_ok_iff, fun made created => ?_⟩
    have value := InputStream.create_value created
    have sameLayer : made.value.layer = layer := by rw [value]
    have sameConfiguration : made.value.configuration = configuration := by rw [value]
    have stopped := InputStream.stopped_of_create created
    have sends := InputStream.sendsFrames_iff stopped
    have spares := InputStream.sparesIndices_iff stopped
    rw [sameLayer] at sends spares
    rw [sameConfiguration] at spares
    exact ⟨sameLayer, sameConfiguration, InputStream.fitsPath_of_create created,
      InputStream.consistent_iff configured created, sends, spares⟩
  · intro parameters configuration _
    refine ⟨OutputStream.create_ok_iff, fun made created => ?_⟩
    have value := OutputStream.create_value created
    have sameLayer : made.value.layer = layer := by rw [value]
    have sameConfiguration : made.value.configuration = configuration := by rw [value]
    have fits := OutputStream.fitsPath_of_create created
    refine ⟨sameLayer, sameConfiguration, fits, ?_⟩
    rw [← sameLayer]
    constructor
    · intro consistent
      exact consistent.frame_pos
    · intro positive
      exact { fits with frame_pos := positive }

private def edge (direction : Direction) (frameSize : Nat) : Layer :=
  ⟨"edge", direction, frameSize, 1⟩

private def withMarkers : InputParameters := { syncEnabled := true, maximumPayload := 64 }

/-- Frames of 100 bytes and of 120 are both in two packets of up to 64. -/
theorem streams_fit_layers_of_two_packets :
    ∃ (configuration : InputConfiguration) (made : Logged InputStream)
      (receiving : OutputConfiguration) (receiver : Logged OutputStream),
      InputConfiguration.ofParameters withMarkers (edge .hostToDevice 100) = .ok configuration ∧
        InputStream.create (edge .hostToDevice 120) configuration 1472 .unlimited = .ok made ∧
        made.value.Consistent 1472 ∧ made.value.SendsFrames ∧ made.value.SparesIndices ∧
        OutputConfiguration.ofParameters {} (edge .deviceToHost 100) = .ok receiving ∧
        OutputStream.create (edge .deviceToHost 120) receiving 1472 = .ok receiver ∧
        receiver.value.Consistent 1472 := by
  let configuration : InputConfiguration :=
    (InputConfiguration.ofParameters withMarkers (edge .hostToDevice 100)).toOption.get rfl
  let receiving : OutputConfiguration :=
    (OutputConfiguration.ofParameters {} (edge .deviceToHost 100)).toOption.get rfl
  have configured : InputConfiguration.ofParameters withMarkers (edge .hostToDevice 100) =
    .ok configuration := rfl
  have received : OutputConfiguration.ofParameters {} (edge .deviceToHost 100) =
    .ok receiving := rfl
  obtain ⟨made, created⟩ : ∃ made, InputStream.create (edge .hostToDevice 120) configuration 1472
    .unlimited = .ok made := ⟨_, rfl⟩
  obtain ⟨receiver, started⟩ : ∃ receiver, OutputStream.create (edge .deviceToHost 120) receiving
    1472 = .ok receiver := ⟨_, rfl⟩
  have positive : 1 ≤ (edge .hostToDevice 120).frameSize := by decide
  have packets : pieceCount 64 120 = pieceCount 64 100 := by decide
  have ⟨inputs, _⟩ :=
    streams_fit_layers_iff (edge .hostToDevice 100) (edge .hostToDevice 120) 1472
  have ⟨_, outputs⟩ :=
    streams_fit_layers_iff (edge .deviceToHost 100) (edge .deviceToHost 120) 1472
  obtain ⟨-, -, -, fits, sends, spares⟩ :=
    (inputs withMarkers configuration .unlimited configured).2 made created
  obtain ⟨-, -, -, serves⟩ := (outputs {} receiving received).2 receiver started
  exact ⟨configuration, made, receiving, receiver, configured, created, fits.mpr packets,
    sends.mpr positive, spares.mpr (.inl positive), received, started, serves.mpr positive⟩

/-- A stream is made of a layer with empty frames, and of a configuration for frames of 8 bytes. -/
theorem stream_of_empty_frames :
    ¬ ∀ (parameters : InputParameters) (checked layer : Layer) (configuration : InputConfiguration)
        (pathLimit : Nat) (limiter : LimiterKind) (made : Logged InputStream),
      InputConfiguration.ofParameters parameters checked = .ok configuration →
      InputStream.create layer configuration pathLimit limiter = .ok made →
        made.value.Consistent pathLimit ∧ made.value.SendsFrames ∧ made.value.SparesIndices := by
  intro claim
  let configuration : InputConfiguration :=
    (InputConfiguration.ofParameters withMarkers (edge .hostToDevice 8)).toOption.get rfl
  have configured : InputConfiguration.ofParameters withMarkers (edge .hostToDevice 8) =
    .ok configuration := rfl
  have consistent := (claim _ _ (edge .hostToDevice 0) _ 1472 .unlimited _ configured rfl).1
  exact absurd consistent.frame_pos (by decide)

end FrameStream
