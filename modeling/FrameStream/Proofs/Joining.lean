import FrameStream.Proofs.MemoryPair
import FrameStream.Proofs.Operations
import FrameStream.Proofs.Synchrony

namespace FrameStream

theorem InputStream.create_eq_ok {layer : Layer} {configuration : InputConfiguration}
    (created : InputStream.create layer configuration pathLimit kind = .ok made) :
    made.value.layer = layer ∧ made.value.configuration = configuration := by
  unfold create at created
  split at created
  · cases created
  · obtain ⟨_, _, created⟩ := ok_of_bind created
    cases created
    exact ⟨rfl, rfl⟩

theorem OutputStream.create_eq_ok {layer : Layer} {configuration : OutputConfiguration}
    (created : OutputStream.create layer configuration pathLimit = .ok made) :
    made.value.layer = layer ∧ made.value.configuration = configuration ∧
      made.value.statistics.gaps = 0 := by
  rw [create_value created]
  exact ⟨rfl, rfl, rfl⟩

theorem Session.addInput_eq_ok {session next : Session} {request : InputRequest}
    (added : session.addInput host request = .ok (next, commands))
    (unlimited : request.limiter = .unlimited) :
    ∃ stream, InputConfiguration.ofParameters request.parameters request.checkedLayer =
        .ok stream.configuration ∧ stream.layer = request.layer ∧
      next.input? = some { stream, limiter := .unlimited, port := ⟨.host, []⟩ } ∧
      next.shared = session.shared := by
  obtain ⟨configuration, configured, added⟩ := ok_of_bind added
  obtain ⟨limiter, made, added⟩ := ok_of_bind added
  obtain ⟨created, creation, added⟩ := ok_of_bind added
  rw [unlimited] at made
  cases made
  cases added
  obtain ⟨layer_eq, rfl⟩ := InputStream.create_eq_ok (ok_of_mapError creation)
  exact ⟨{ created.value with timeout := request.parameters.timeout },
    ok_of_mapError configured, layer_eq, rfl, rfl⟩

theorem Session.addOutput_eq_ok {session next : Session} {request : OutputRequest}
    (added : session.addOutput request = .ok next) (paired : session.input? = some input) :
    ∃ stream, OutputConfiguration.ofParameters request.parameters request.checkedLayer =
        .ok stream.configuration ∧ stream.layer = request.layer ∧ stream.statistics.gaps = 0 ∧
      next.output? = some { stream, port := ⟨.device, []⟩ } ∧ next.input? = some input ∧
      next.shared = session.shared := by
  obtain ⟨configuration, configured, added⟩ := ok_of_bind added
  obtain ⟨created, creation, added⟩ := ok_of_bind added
  simp only [paired, Option.isSome_some, if_true] at added
  cases added
  obtain ⟨layer_eq, rfl, gapless⟩ := OutputStream.create_eq_ok (ok_of_mapError creation)
  exact ⟨{ created.value with timeout := request.parameters.timeout },
    ok_of_mapError configured, layer_eq, gapless, rfl, rfl, rfl⟩

namespace Joined

variable {session : Session} {input : InputStream} {output : OutputStream} {inbox : List Bytes}

theorem look_activating_input
    (ends : Session.process.Ends now
      (Session.process.look now session (.input (.activating batchSize false deadline))) later
      final (.ok .done))
    (joined : Joined session input output inbox) (ready : session.shared.isReady = true) :
    ∃ activated, input.completeActivation batchSize false = .ok activated ∧
      Joined final activated.value output inbox ∧ final.shared = session.shared := by
  change Session.process.Ends now (session.onInput _) _ _ _ at ends
  rw [Session.onInput, joined.input_eq] at ends
  simp only [InputSide.look, InputSide.lookActivating, ready, if_true] at ends
  cases completed : input.completeActivation batchSize false with
  | error error =>
    rw [completed] at ends
    cases ends
  | ok activated =>
    rw [completed] at ends
    cases ends
    exact ⟨activated, rfl,
      ⟨rfl, joined.output_eq, joined.inbox_eq, joined.unchunked, joined.isOpen⟩, rfl⟩

theorem activate_input (joined : Joined session input output inbox)
    (ready : session.shared.isReady = true)
    (found : (session.activate now .input requested false []).result = some (.ok .done)) :
    ∃ batchSize activated, input.completeActivation batchSize false = .ok activated ∧
      Joined (session.activate now .input requested false []).world activated.value output inbox ∧
      (session.activate now .input requested false []).world.shared = session.shared := by
  unfold Session.activate at *
  simp only [Session.onInput, joined.input_eq, InputSide.activate] at found ⊢
  cases accepted : input.beginActivation requested with
  | error error =>
    simp only [accepted] at found
    cases found
  | ok batchSize =>
    simp only [accepted] at found ⊢
    have ends := Process.ends_of_run found
    obtain ⟨activated, activation, joined, shared⟩ := look_activating_input ends
      ⟨rfl, joined.output_eq, joined.inbox_eq, joined.unchunked, joined.isOpen⟩ ready
    exact ⟨batchSize, activated, activation, joined, shared⟩

theorem look_activating_output
    (ends : Session.process.Ends now
      (Session.process.look now session (.output (.activating batchSize false deadline))) later
      final (.ok .done))
    (joined : Joined session input output inbox) (ready : session.shared.isReady = true) :
    ∃ activated, output.completeActivation batchSize false = .ok activated ∧
      Joined final input activated.value inbox := by
  change Session.process.Ends now (session.onOutput _) _ _ _ at ends
  rw [Session.onOutput, joined.output_eq] at ends
  simp only [OutputSide.look, OutputSide.lookActivating, ready, if_true] at ends
  cases completed : output.completeActivation batchSize false with
  | error error =>
    rw [completed] at ends
    cases ends
  | ok activated =>
    rw [completed] at ends
    cases ends
    exact ⟨activated, rfl,
      ⟨joined.input_eq, rfl, joined.inbox_eq, joined.unchunked, joined.isOpen⟩⟩

theorem activate_output (joined : Joined session input output inbox)
    (ready : session.shared.isReady = true)
    (found : (session.activate now .output requested false []).result = some (.ok .done)) :
    ∃ batchSize activated, output.completeActivation batchSize false = .ok activated ∧
      Joined (session.activate now .output requested false []).world input activated.value
        inbox := by
  unfold Session.activate at *
  simp only [Session.onOutput, joined.output_eq, OutputSide.activate] at found ⊢
  cases accepted : output.beginActivation requested with
  | error error =>
    simp only [accepted] at found
    cases found
  | ok batchSize =>
    simp only [accepted] at found ⊢
    have ends := Process.ends_of_run found
    obtain ⟨activated, activation, joined⟩ := look_activating_output ends
      ⟨joined.input_eq, rfl, joined.inbox_eq, joined.unchunked, joined.isOpen⟩ ready
    exact ⟨batchSize, activated, activation, joined⟩

end Joined

/-- An input and an output stream that were made over one channel in memory, with framings that
agree, without padding and without a limiter, for a device that is ready; and that were then
activated, neither of them with `resume`. -/
structure Pairing where
  pathLimit : Nat
  shaper : Shaper
  host : Network.Host
  sending : InputRequest
  receiving : OutputRequest
  configuration : InputConfiguration
  configured : InputConfiguration.ofParameters sending.parameters sending.checkedLayer =
    .ok configuration
  payload_eq : receiving.parameters.maximumPayload = sending.parameters.maximumPayload
  sync_eq : receiving.parameters.syncEnabled = sending.parameters.syncEnabled
  marker_eq : receiving.parameters.markerSize = sending.parameters.markerSize
  unpadded : sending.parameters.padsFrames = false
  unlimited : sending.limiter = .unlimited
  frameSize_eq : receiving.layer.frameSize = sending.layer.frameSize
  frameSize_pos : 0 < sending.layer.frameSize
  half : Session × List ShapingCommand
  half_added :
    (Session.overChannel (Channel.inMemory pathLimit) shaper true).addInput host sending = .ok half
  made : Session
  made_added : half.1.addOutput receiving = .ok made
  begun : Nat
  inputBatch : UInt16
  outputBatch : UInt16
  inputActivated : (made.activate begun .input inputBatch false []).result = some (.ok .done)
  outputActivated :
    ((made.activate begun .input inputBatch false []).world.activate
      (made.activate begun .input inputBatch false []).now .output outputBatch false []).result =
        some (.ok .done)

namespace Pairing

def run (pairing : Pairing) : Session.Run :=
  let first := pairing.made.activate pairing.begun .input pairing.inputBatch false []
  first.world.activate first.now .output pairing.outputBatch false []

def now (pairing : Pairing) : Nat := pairing.run.now

def session (pairing : Pairing) : Session := pairing.run.world

/-- Both streams start at the first frame, with nothing between them. -/
theorem joined (pairing : Pairing) :
    ∃ input output, Joined pairing.session input output [] ∧
      InputStream.Counts pairing.configuration pairing.sending.layer 0 0 input ∧
      input.lifecycle.state = .active ∧
      OutputStream.InStep pairing.configuration output.configuration pairing.receiving.layer 0
        output ∧
      output.configuration.toFraming = pairing.configuration.toFraming := by
  obtain ⟨input, sent, inputLayer, found, shared⟩ :=
    Session.addInput_eq_ok pairing.half_added pairing.unlimited
  obtain ⟨output, taken, outputLayer, gapless, present, kept, shared'⟩ :=
    Session.addOutput_eq_ok pairing.made_added found
  have channel := shared'.trans shared
  have made : Joined pairing.made input output [] :=
    ⟨kept, present, by rw [channel]; rfl, by rw [channel]; rfl, by rw [channel]; rfl⟩
  have ready : pairing.made.shared.isReady = true := by rw [channel]; rfl
  obtain ⟨_, sender, sending, made, same⟩ := made.activate_input ready pairing.inputActivated
  obtain ⟨_, receiver, receiving, made⟩ :=
    made.activate_output (same ▸ ready) pairing.outputActivated
  have same : input.configuration = pairing.configuration :=
    Except.ok.inj (sent.symm.trans pairing.configured)
  have ⟨counts, active⟩ := InputStream.completeActivation_counts sending
  have inStep := OutputStream.completeActivation_inStep pairing.configuration receiving gapless
  have configuration := inStep.configuration_eq
  rw [same, inputLayer] at counts
  rw [← configuration, outputLayer] at inStep
  refine ⟨sender.value, receiver.value, made, counts, active, inStep, ?_⟩
  rw [configuration]
  exact framing_eq_of_parameters pairing.configured taken pairing.payload_eq pairing.sync_eq
    pairing.marker_eq

end Pairing

end FrameStream
