import FrameStream.Proofs.Completion
import FrameStream.Proofs.Transit
import FrameStream.Proofs.WireImage
import FrameStream.Session.Creation

namespace FrameStream

/-- A session that joins two streams, with the datagrams on their way. -/
structure Joined (session : Session) (input : InputStream) (output : OutputStream)
    (inbox : List Bytes) : Prop where
  input_eq : session.input? = some { stream := input, limiter := .unlimited, port := ⟨.host, []⟩ }
  output_eq : session.output? = some { stream := output, port := ⟨.device, []⟩ }
  inbox_eq : session.shared.channel.device.inbox = inbox
  unchunked : session.shared.channel.host.chunkLimit = 0
  isOpen : session.shared.channel.device.isOpen = true

theorem send_whole {channel : Channel} (inbox_eq : channel.device.inbox = inbox)
    (unchunked : channel.host.chunkLimit = 0) (isOpen : channel.device.isOpen = true)
    (payload : Bytes) :
    ∃ next, channel.send .host payload = (next, .ok payload.length) ∧
      next.device.inbox = inbox ++ [payload] ∧ next.host.chunkLimit = 0 ∧
      next.device.isOpen = true := by
  have whole : Channel.Endpoint.accepted (channel.endpoint .host) payload.length = payload.length :=
    if_pos unchunked
  have peer : (channel.endpoint (Side.peer .host)).isOpen = true := isOpen
  refine ⟨(channel.send .host payload).1, ?_⟩
  simp only [Channel.send, whole, if_pos peer, List.take_length, ← inbox_eq]
  exact ⟨trivial, rfl, unchunked, isOpen⟩

namespace Joined

def writeFind : Progress WritePoint (Except StreamError Unit) →
    Look Session.Activity (Except StreamError Reply)
  | .waiting point => .ready (.input (.writing point .unmade))
  | .finished result => .finished (result.map fun _ => .done)

def readFind : Progress ReadPoint (Except StreamError Bytes) →
    Look Session.Activity (Except StreamError Reply)
  | .waiting point => .ready (.output (.reading point .unmade))
  | .finished result => .finished (result.map .frame)

variable {session : Session} {input : InputStream} {output : OutputStream} {inbox : List Bytes}

theorem store_write (joined : Joined session input output inbox) (side : InputSide Float)
    (unlimited : side.limiter = .unlimited) (port : side.port = ⟨.host, []⟩) (shared : Shared)
    (inbox_eq : shared.channel.device.inbox = inbox')
    (unchunked : shared.channel.host.chunkLimit = 0)
    (isOpen : shared.channel.device.isOpen = true) (step : InputStream.WriteStep) :
    ∃ next, session.storeInput (InputSide.follow shared side step) =
        (next, writeFind step.value.2) ∧
      Joined next step.value.1 output inbox' := by
  obtain ⟨⟨stream, progress⟩, events⟩ := step
  obtain ⟨_, limiter, port'⟩ := side
  cases unlimited
  cases port
  cases progress <;>
    exact ⟨_, rfl, ⟨rfl, joined.output_eq, inbox_eq, unchunked, isOpen⟩⟩

theorem start_write (joined : Joined session input output inbox) (frame : Bytes) :
    ∃ next, (Session.Turn.write frame).start session =
        (next, writeFind (input.beginWrite frame).value.2) ∧
      Joined next (input.beginWrite frame).value.1 output inbox := by
  rw [Session.Turn.start, Session.onInput, joined.input_eq]
  exact joined.store_write _ rfl rfl _ joined.inbox_eq joined.unchunked joined.isOpen _

theorem look_asking (now : Nat) (joined : Joined session input output inbox)
    (nonempty : payload ≠ []) (later : List Bytes) :
    ∃ next, Session.process.look now session (.input (.writing (.asking payload later) .unmade)) =
        (next, writeFind (.waiting (.sending payload 0 later))) ∧
      Joined next input output inbox := by
  have stored := joined.store_write ⟨input, .unlimited, ⟨.host, []⟩⟩ rfl rfl
    session.shared joined.inbox_eq joined.unchunked joined.isOpen
    (input.granted payload later (.ok .zero))
  rw [input.granted_zero nonempty] at stored
  change ∃ next, session.onInput _ = _ ∧ _
  rw [Session.onInput, joined.input_eq]
  exact stored

/-- A payload is sent whole, and waits at the other end behind the ones before it. -/
theorem look_sending (now : Nat) (joined : Joined session input output inbox)
    (active : input.lifecycle.state = .active) (nonempty : payload ≠ []) (later : List Bytes) :
    ∃ next, Session.process.look now session
          (.input (.writing (.sending payload 0 later) .unmade)) =
        (next, writeFind (input.proceed later).value.2) ∧
      Joined next (input.proceed later).value.1 output (inbox ++ [payload]) := by
  have ready := (Lifecycle.ensureActive_eq_ok _).mpr active
  obtain ⟨channel, sent, queued, unchunked, isOpen⟩ :=
    send_whole joined.inbox_eq joined.unchunked joined.isOpen payload
  have stored := joined.store_write ⟨input, .unlimited, ⟨.host, []⟩⟩ rfl rfl
    { session.shared with channel } queued unchunked isOpen
    (input.delivered payload 0 later (.ok payload.length))
  rw [input.delivered_length nonempty] at stored
  have transmitted :
      Port.send ⟨.host, []⟩ session.shared.channel now input.timeout payload .unmade =
        (⟨.host, []⟩, channel, .answered (.ok payload.length)) := by
    simp [Port.send, Port.takeAct, Port.actFailure?, Port.transmit, sent, Except.map]
  change ∃ next, session.onInput _ = _ ∧ _
  rw [Session.onInput, joined.input_eq]
  simp only [InputSide.look, InputSide.lookSending, ready, List.drop_zero, transmitted]
  exact stored

/-- A write ends with its last payload, all of them waiting at the other end. -/
theorem write_ends (now : Nat) (active : input.lifecycle.state = .active)
    (nonempty : ∀ payload ∈ payloads, payload ≠ [])
    (joined : Joined session (input.proceed payloads).value.1 output inbox) :
    ∃ final, Session.process.Ends now (session, writeFind (input.proceed payloads).value.2) now
        final (.ok .done) ∧
      Joined final { input with frameCounter := input.frameCounter + 1 } output
        (inbox ++ payloads) := by
  induction payloads generalizing session inbox with
  | nil => exact ⟨session, .finished, by rwa [List.append_nil]⟩
  | cons payload later ih =>
    have ⟨first, rest⟩ := List.forall_mem_cons.mp nonempty
    obtain ⟨asked, asking, joined⟩ := look_asking now joined first later
    obtain ⟨sent, sending, joined⟩ := look_sending now joined active first later
    obtain ⟨final, ends, joined⟩ := ih rest joined
    refine ⟨final, .ready ?_, by rwa [List.append_assoc] at joined⟩
    rw [asking]
    refine .ready ?_
    rw [sending]
    exact ends

theorem write (now : Nat) {configuration : InputConfiguration} {layer : Layer}
    (joined : Joined session input output inbox)
    (counts : InputStream.Counts configuration layer position position input)
    (active : input.lifecycle.state = .active) (positive : 0 < layer.frameSize)
    (exact : frame.length = layer.frameSize) :
    ∃ final next, Session.process.Ends now ((Session.Turn.write frame).start session) now final
        (.ok .done) ∧
      Joined final next output
        (inbox ++ configuration.image (configuration.marker? position) frame) ∧
      InputStream.Counts configuration layer (position + 1) (position + 1) next ∧
      next.lifecycle.state = .active := by
  have nonempty : frame ≠ [] := List.ne_nil_of_length_pos (exact ▸ positive)
  obtain ⟨started, start, joined⟩ := joined.start_write frame
  rw [InputStream.beginWrite_image counts active positive exact] at start joined
  have sends : (input.counting position (position + 1)).lifecycle.state = .active := active
  obtain ⟨final, ends, joined⟩ := write_ends now sends
    (configuration.image_nonempty (configuration.marker? position) nonempty) joined
  have counted := congrArg Prod.fst (InputStream.proceed_counting input position)
  simp only [InputStream.proceed] at counted
  rw [counted] at joined
  exact ⟨final, _, start ▸ ends, joined, ⟨counts.configuration_eq, counts.layer_eq, rfl⟩, active⟩

theorem store_read (joined : Joined session input output inbox) (side : OutputSide)
    (port : side.port = ⟨.device, []⟩) (shared : Shared)
    (inbox_eq : shared.channel.device.inbox = inbox')
    (unchunked : shared.channel.host.chunkLimit = 0)
    (isOpen : shared.channel.device.isOpen = true) (step : OutputStream.ReadStep) :
    ∃ next, session.storeOutput (OutputSide.follow shared side step) =
        (next, readFind step.value.2) ∧
      Joined next input step.value.1 inbox' := by
  obtain ⟨⟨stream, progress⟩, events⟩ := step
  obtain ⟨_, port'⟩ := side
  cases port
  cases progress <;>
    exact ⟨_, rfl, ⟨joined.input_eq, rfl, inbox_eq, unchunked, isOpen⟩⟩

theorem start_read (joined : Joined session input output inbox) :
    ∃ next, Session.Turn.read.start session =
        (next, readFind (output.beginRead output.layer.frameSize).value.2) ∧
      Joined next input (output.beginRead output.layer.frameSize).value.1 inbox := by
  rw [Session.Turn.start, Session.onOutput, joined.output_eq]
  exact joined.store_read _ rfl _ joined.inbox_eq joined.unchunked joined.isOpen _

/-- A read takes the datagram that waits longest. -/
theorem look_reading (now : Nat) (joined : Joined session input output (datagram :: inbox))
    (active : output.lifecycle.state = .active) (point : ReadPoint) :
    let step := output.received point
      (.ok (datagram.take output.configuration.maximumPayload))
    ∃ next, Session.process.look now session (.output (.reading point .unmade)) =
        (next, readFind step.value.2) ∧
      Joined next input step.value.1 inbox := by
  have ready := (Lifecycle.ensureActive_eq_ok _).mpr active
  have received : Port.receive ⟨.device, []⟩ session.shared.channel now output.timeout
      output.configuration.maximumPayload .unmade =
      (⟨.device, []⟩,
        { session.shared.channel with device := { session.shared.channel.device with inbox } },
        .answered (.ok (datagram.take output.configuration.maximumPayload))) := by
    simp [Port.receive, Port.takeAct, Port.actFailure?, Port.await, Channel.receive?,
      Channel.endpoint, joined.inbox_eq, Channel.update]
  have stored := joined.store_read ⟨output, ⟨.device, []⟩⟩ rfl
    { session.shared with
      channel.device := { session.shared.channel.device with inbox } }
    rfl joined.unchunked joined.isOpen
    (output.received point (.ok (datagram.take output.configuration.maximumPayload)))
  change ∃ next, session.onOutput _ = _ ∧ _
  rw [Session.onOutput, joined.output_eq]
  simp only [OutputSide.look, OutputSide.lookReading, OutputSide.receive, ready, received]
  exact stored

theorem look_timeout (now : Nat) (call : Call) (joined : Joined session input output inbox)
    (active : output.lifecycle.state = .active) (point : ReadPoint)
    (answered : Port.receive ⟨.device, []⟩ session.shared.channel now output.timeout
        output.configuration.maximumPayload call =
      (⟨.device, []⟩, session.shared.channel,
        .answered (.error (.timeout "receive" output.timeout)))) :
    ∃ final, Session.process.look now session (.output (.reading point call)) =
      (final, .finished (.error (.timeout "receive" output.timeout))) := by
  have ready := (Lifecycle.ensureActive_eq_ok _).mpr active
  obtain ⟨final, stored, _⟩ := joined.store_read ⟨output, ⟨.device, []⟩⟩ rfl
    session.shared joined.inbox_eq joined.unchunked joined.isOpen
    (output.received point (.error (.timeout "receive" output.timeout)))
  rw [OutputStream.received_error] at stored
  refine ⟨final, ?_⟩
  change session.onOutput _ = _
  rw [Session.onOutput, joined.output_eq]
  simp only [OutputSide.look, OutputSide.lookReading, OutputSide.receive, ready, answered]
  exact stored

theorem receive?_empty (joined : Joined session input output []) (size : Nat) :
    session.shared.channel.receive? .device size = none := by
  simp [Channel.receive?, Channel.endpoint, joined.inbox_eq]

theorem look_waiting (joined : Joined session input output [])
    (active : output.lifecycle.state = .active) (point : ReadPoint)
    (later : now < now + output.timeout.milliseconds) :
    ∃ next, Session.process.look now session (.output (.reading point .unmade)) =
        (next, .blocked (.output (.reading point (.due (now + output.timeout.milliseconds))))
          (some (now + output.timeout.milliseconds))) ∧
      Joined next input output [] := by
  have ready := (Lifecycle.ensureActive_eq_ok _).mpr active
  have pending : Port.receive ⟨.device, []⟩ session.shared.channel now output.timeout
      output.configuration.maximumPayload .unmade =
      (⟨.device, []⟩, session.shared.channel,
        .pending (.due (now + output.timeout.milliseconds))) := by
    simp only [Port.receive, Port.takeAct, Port.actFailure?, Port.await, joined.receive?_empty,
      if_neg (Nat.not_le.mpr later)]
  change ∃ next, session.onOutput _ = _ ∧ _
  rw [Session.onOutput, joined.output_eq]
  simp only [OutputSide.look, OutputSide.lookReading, OutputSide.receive, ready, pending]
  exact ⟨_, rfl, ⟨joined.input_eq, rfl, joined.inbox_eq, joined.unchunked, joined.isOpen⟩⟩

theorem look_exhausted (now : Nat) (joined : Joined session input output [])
    (active : output.lifecycle.state = .active) (point : ReadPoint) :
    ∃ last final, Session.process.Ends now
      (Session.process.look now session (.output (.reading point .unmade))) last final
      (.error (.timeout "receive" output.timeout)) := by
  by_cases atOnce : now + output.timeout.milliseconds ≤ now
  · obtain ⟨final, looked⟩ := look_timeout now .unmade joined active point
      (by simp only [Port.receive, Port.takeAct, Port.actFailure?, Port.await,
        joined.receive?_empty, if_pos atOnce])
    exact ⟨now, final, looked ▸ .finished⟩
  · obtain ⟨next, waiting, joined⟩ := look_waiting joined active point (Nat.not_le.mp atOnce)
    obtain ⟨final, looked⟩ := look_timeout (now + output.timeout.milliseconds)
      (.due (now + output.timeout.milliseconds)) joined active point
      (by simp only [Port.receive, Port.await, joined.receive?_empty, Nat.le_refl, if_true])
    refine ⟨now + output.timeout.milliseconds, final, ?_⟩
    rw [waiting]
    refine .woken ?_
    rw [looked]
    exact .finished

/-- A read goes on as the stream says while what it takes is waiting for it. -/
theorem read_goes_on (now : Nat)
    (run : OutputStream.Reads (output, progress) receipts [] (last, progress'))
    (waiting : receipts = arrived.map .ok) (active : output.lifecycle.state = .active)
    (joined : Joined session input output (arrived ++ inbox)) :
    ∃ reached, Joined reached input last inbox ∧ last.lifecycle.state = .active ∧
      ∀ later final result,
        Session.process.Ends now (reached, readFind progress') later final result →
        Session.process.Ends now (session, readFind progress) later final result := by
  generalize begun : (output, progress) = state at run
  generalize none : ([] : List (Except StreamError Bytes)) = results at run
  generalize ended : (last, progress') = ending at run
  induction run generalizing output progress arrived session with
  | done =>
    cases ended
    cases begun
    cases List.map_eq_nil_iff.mp waiting.symm
    exact ⟨session, joined, active, fun _ _ _ ends => ends⟩
  | receive run ih =>
    cases begun
    obtain ⟨datagram, arrived, rfl, rfl, rfl⟩ := List.map_eq_cons_iff.mp waiting.symm
    obtain ⟨next, looked, joined⟩ := look_reading now joined active _
    obtain ⟨reached, joined, active, continues⟩ :=
      ih rfl (by rwa [OutputStream.received_lifecycle]) joined rfl none ended
    refine ⟨reached, joined, active, fun later final result ends => .ready ?_⟩
    rw [looked]
    exact continues later final result ends
  | again => cases none

theorem read (now : Nat)
    (run : OutputStream.Reads (output.beginRead output.layer.frameSize).value (arrived.map .ok) []
      (last, .finished result))
    (active : (output.beginRead output.layer.frameSize).value.1.lifecycle.state = .active)
    (joined : Joined session input output (arrived ++ inbox)) :
    ∃ final, Session.process.Ends now (Session.Turn.read.start session) now final
        (result.map .frame) ∧
      Joined final input last inbox := by
  obtain ⟨started, start, joined⟩ := joined.start_read
  obtain ⟨reached, joined, _, continues⟩ := read_goes_on now run rfl active joined
  exact ⟨reached, start ▸ continues now reached _ .finished, joined⟩

theorem read_timeout (now : Nat)
    (run : OutputStream.Reads (output.beginRead output.layer.frameSize).value (arrived.map .ok) []
      (last, .waiting point))
    (active : (output.beginRead output.layer.frameSize).value.1.lifecycle.state = .active)
    (joined : Joined session input output arrived) :
    ∃ later final, Session.process.Ends now (Session.Turn.read.start session) later final
      (.error (.timeout "receive" last.timeout)) := by
  obtain ⟨started, start, joined⟩ := joined.start_read
  rw [← List.append_nil arrived] at joined
  obtain ⟨reached, joined, active, continues⟩ := read_goes_on now run rfl active joined
  obtain ⟨later, final, ends⟩ := look_exhausted now joined active point
  exact ⟨later, final, start ▸ continues later final _ (.ready ends)⟩

end Joined

end FrameStream
