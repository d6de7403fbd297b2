import Mathlib.Data.List.Forall2
import FrameStream.Proofs.Carriage
import FrameStream.Proofs.RoundTrip

namespace FrameStream

def Shared.limited (limit : Nat) (shared : Shared) : Shared :=
  { shared with channel := shared.channel.setChunkLimit .host limit }

theorem Shared.limited_channel (limit : Nat) (shared : Shared) :
    (shared.limited limit).channel = shared.channel.setChunkLimit .host limit := rfl

def Logged.limited (limit : Nat) (looked : Logged (Shared × found)) : Logged (Shared × found) :=
  ⟨(looked.value.1.limited limit, looked.value.2), looked.events⟩

theorem Channel.receive?_limited (channel : Channel) (side : Side) (size limit : Nat) :
    (channel.setChunkLimit .host limit).receive? side size =
      (channel.receive? side size).map fun received =>
        (received.1.setChunkLimit .host limit, received.2) := by
  obtain ⟨pathLimit, host, device⟩ := channel
  obtain ⟨hostAddress, hostInbox, hostSent, hostLimit, hostOpen⟩ := host
  obtain ⟨deviceAddress, deviceInbox, deviceSent, deviceLimit, deviceOpen⟩ := device
  cases side with
  | host => cases hostInbox <;> rfl
  | device => cases deviceInbox <;> rfl

theorem Channel.send_limited {channel : Channel} (unchunked : channel.host.chunkLimit = 0)
    (isOpen : channel.device.isOpen = true) (nonempty : payload ≠ []) (limit : Nat) :
    ∃ accepted, 0 < accepted ∧ accepted ≤ payload.length ∧
      (channel.setChunkLimit .host limit).send .host payload =
        ((channel.send .host (payload.take accepted)).1.setChunkLimit .host limit,
          .ok accepted) := by
  have longer := List.length_pos_iff.mpr nonempty
  obtain ⟨pathLimit, host, device⟩ := channel
  refine ⟨if limit = 0 then payload.length else min payload.length limit, ?_, ?_, ?_⟩
  · split <;> omega
  · split <;> omega
  · have peer : device.isOpen = true := isOpen
    generalize size : (if limit = 0 then payload.length else min payload.length limit) = accepted
    have part : Endpoint.accepted { host with chunkLimit := limit } payload.length = accepted :=
      size
    have whole : Endpoint.accepted host (payload.take accepted).length =
        (payload.take accepted).length := if_pos unchunked
    simp only [send, endpoint, Side.peer, setChunkLimit, update, part, whole, peer, if_true,
      List.take_length, inject]

namespace Port

theorem await_limited (port : Port) (channel : Channel) (now : Nat) (limit : Duration)
    (size deadline chunk : Nat) :
    port.await (channel.setChunkLimit .host chunk) now limit size deadline =
      ((port.await channel now limit size deadline).1.setChunkLimit .host chunk,
        (port.await channel now limit size deadline).2) := by
  rw [await, await, Channel.receive?_limited]
  cases channel.receive? port.side size with
  | none =>
    dsimp only [Option.map_none]
    split <;> rfl
  | some received => rfl

theorem receive_limited (port : Port) (channel : Channel) (now : Nat) (limit : Duration)
    (size : Nat) (call : Call) (chunk : Nat) :
    port.receive (channel.setChunkLimit .host chunk) now limit size call =
      ((port.receive channel now limit size call).1,
        (port.receive channel now limit size call).2.1.setChunkLimit .host chunk,
        (port.receive channel now limit size call).2.2) := by
  cases call with
  | endless => rfl
  | due deadline => simp only [receive, await_limited]
  | unmade =>
    simp only [receive, await_limited]
    split <;> rfl

end Port

namespace OutputSide

theorem receive_limited (now : Nat) (shared : Shared) (output : OutputSide) (call : Call)
    (limit : Nat) :
    receive now (shared.limited limit) output call =
      ((receive now shared output call).1.limited limit, (receive now shared output call).2) := by
  unfold receive
  split
  · rfl
  · rw [Shared.limited_channel, Port.receive_limited]
    rfl

theorem look_limited (now : Nat) (shared : Shared) (output : OutputSide)
    (activity : OutputActivity) (limit : Nat) :
    output.look now (shared.limited limit) activity =
      (output.look now shared activity).limited limit := by
  cases activity with
  | activating batchSize resume deadline =>
    simp only [look, lookActivating]
    change (if shared.isReady then _ else _) = _
    split
    · split <;> rfl
    · split <;> rfl
  | reading point call =>
    simp only [look, lookReading, receive_limited]
    obtain ⟨shared, next, outcome⟩ := receive now shared output call
    cases outcome <;> rfl
  | aligning call =>
    simp only [look, lookAligning, receive_limited]
    obtain ⟨shared, next, outcome⟩ := receive now shared output call
    obtain pending | (error | payload) := outcome <;> rfl

end OutputSide

namespace Session

variable {session : Session} {limit : Nat}

theorem storeInput_limited (session : Session) (looked : InputSide.Looked Float) (limit : Nat) :
    (session.setChunkLimit limit).storeInput (looked.limited limit) =
      ((session.storeInput looked).1.setChunkLimit limit, (session.storeInput looked).2) := rfl

theorem onOutput_limited (session : Session) {operation limited : OutputSide → OutputSide.Looked}
    (same : ∀ output, limited output = (operation output).limited limit) :
    (session.setChunkLimit limit).onOutput limited =
      ((session.onOutput operation).1.setChunkLimit limit, (session.onOutput operation).2) := by
  obtain ⟨shared, shaper, registry, input?, output?, events⟩ := session
  cases output? with
  | none => rfl
  | some output =>
    change storeOutput _ (limited output) = _
    rw [same]
    rfl

theorem onInput_limited (session : Session)
    {operation limited : InputSide Float → InputSide.Looked Float}
    (same : ∀ input, limited input = (operation input).limited limit) :
    (session.setChunkLimit limit).onInput limited =
      ((session.onInput operation).1.setChunkLimit limit, (session.onInput operation).2) := by
  obtain ⟨shared, shaper, registry, input?, output?, events⟩ := session
  cases input? with
  | none => rfl
  | some input =>
    change storeInput _ (limited input) = _
    rw [same]
    rfl

theorem look_output_limited (now : Nat) (session : Session) (activity : OutputActivity)
    (limit : Nat) :
    process.look now (session.setChunkLimit limit) (.output activity) =
      ((process.look now session (.output activity)).1.setChunkLimit limit,
        (process.look now session (.output activity)).2) :=
  session.onOutput_limited fun output => output.look_limited now session.shared activity limit

theorem start_read_limited (session : Session) (limit : Nat) :
    Turn.read.start (session.setChunkLimit limit) =
      ((Turn.read.start session).1.setChunkLimit limit, (Turn.read.start session).2) :=
  session.onOutput_limited fun _ => rfl

theorem onOutput_find (session : Session) (operation : OutputSide → OutputSide.Looked) :
    ∃ found : OutputSide.OutputLook, (session.onOutput operation).2 = found.map .output id := by
  unfold onOutput
  split
  · exact ⟨.finished (.error .notActivated), rfl⟩
  · exact ⟨_, rfl⟩

/-- What an operation of the output stream does not see makes no difference to how it ends. -/
theorem ends_output_unseen {change : Session → Session}
    (unseen : ∀ now session activity, process.look now (change session) (.output activity) =
      (change (process.look now session (.output activity)).1,
        (process.look now session (.output activity)).2))
    {found : OutputSide.OutputLook}
    (ends : process.Ends now (session, found.map .output id) last final result) :
    process.Ends now (change session, found.map .output id) last (change final) result := by
  generalize start : (session, Look.map Activity.output id found) = looked at ends
  induction ends generalizing session found with
  | finished =>
    cases found with
    | finished reached =>
      cases start
      exact .finished
    | ready | blocked => cases start
  | @ready now world _ _ _ _ _ ih =>
    cases found with
    | ready activity =>
      cases start
      obtain ⟨next, find⟩ : ∃ found, (process.look now world (.output activity)).2 = _ :=
        world.onOutput_find _
      have rest := ih (Prod.ext rfl find.symm)
      refine .ready ?_
      rw [unseen, find]
      exact rest
    | finished | blocked => cases start
  | @woken wake world _ _ _ _ _ _ ih =>
    cases found with
    | blocked activity wakeUp =>
      cases start
      obtain ⟨next, find⟩ : ∃ found, (process.look wake world (.output activity)).2 = _ :=
        world.onOutput_find _
      have rest := ih (Prod.ext rfl find.symm)
      refine .woken ?_
      rw [unseen, find]
      exact rest
    | finished | ready => cases start

theorem ends_read_unseen {change : Session → Session}
    (starts : Turn.read.start (change session) =
      (change (Turn.read.start session).1, (Turn.read.start session).2))
    (unseen : ∀ now session activity, process.look now (change session) (.output activity) =
      (change (process.look now session (.output activity)).1,
        (process.look now session (.output activity)).2))
    (ends : process.Ends now (Turn.read.start session) last final result) :
    process.Ends now (Turn.read.start (change session)) last (change final) result := by
  obtain ⟨found, find⟩ : ∃ found, (Turn.read.start session).2 = _ := session.onOutput_find _
  have start : Turn.read.start session = ((Turn.read.start session).1, found.map .output id) :=
    Prod.ext rfl find
  rw [start] at ends
  rw [starts, find]
  exact ends_output_unseen unseen ends

end Session

namespace Joined

variable {session : Session} {input : InputStream} {output : OutputStream} {inbox : List Bytes}
  {payload : Bytes} {taken : Nat}

theorem start_write_limited (joined : Joined session input output inbox) (frame : Bytes)
    (limit : Nat) :
    ∃ next, (Session.Turn.write frame).start (session.setChunkLimit limit) =
        (next.setChunkLimit limit, writeFind (input.beginWrite frame).value.2) ∧
      Joined next (input.beginWrite frame).value.1 output inbox := by
  obtain ⟨next, start, joined⟩ := joined.start_write frame
  refine ⟨next, ?_, joined⟩
  have same : (Session.Turn.write frame).start (session.setChunkLimit limit) =
      (((Session.Turn.write frame).start session).1.setChunkLimit limit,
        ((Session.Turn.write frame).start session).2) :=
    session.onInput_limited fun _ => rfl
  rw [same, start]

theorem look_asking_limited (now : Nat) (joined : Joined session input output inbox)
    (nonempty : payload ≠ []) (later : List Bytes) (limit : Nat) :
    ∃ next, Session.process.look now (session.setChunkLimit limit)
          (.input (.writing (.asking payload later) .unmade)) =
        (next.setChunkLimit limit, writeFind (.waiting (.sending payload 0 later))) ∧
      Joined next input output inbox := by
  obtain ⟨next, looked, joined⟩ := look_asking now joined nonempty later
  refine ⟨next, ?_, joined⟩
  have same : Session.process.look now (session.setChunkLimit limit)
        (.input (.writing (.asking payload later) .unmade)) =
      ((Session.process.look now session (.input (.writing (.asking payload later) .unmade))).1
          |>.setChunkLimit limit,
        (Session.process.look now session (.input (.writing (.asking payload later) .unmade))).2) :=
    session.onInput_limited fun _ => rfl
  rw [same, looked]

/-- A send puts as much of a payload on its way as the limit allows. -/
theorem look_sending_limited (now : Nat) (joined : Joined session input output inbox)
    (active : input.lifecycle.state = .active) (unsent : payload.drop taken ≠ [])
    (later : List Bytes) (limit : Nat) :
    ∃ accepted next, 0 < accepted ∧ accepted ≤ payload.length - taken ∧
      Session.process.look now (session.setChunkLimit limit)
          (.input (.writing (.sending payload taken later) .unmade)) =
        (next.setChunkLimit limit,
          writeFind (input.offer payload (taken + accepted) later).value.2) ∧
      Joined next (input.offer payload (taken + accepted) later).value.1 output
        (inbox ++ [(payload.drop taken).take accepted]) := by
  have ready := (Lifecycle.ensureActive_eq_ok _).mpr active
  obtain ⟨accepted, positive, within, sent⟩ :=
    Channel.send_limited joined.unchunked joined.isOpen unsent limit
  obtain ⟨channel, whole, queued, unchunked, isOpen⟩ :=
    send_whole joined.inbox_eq joined.unchunked joined.isOpen ((payload.drop taken).take accepted)
  rw [List.length_drop] at within
  have stored := joined.store_write ⟨input, .unlimited, ⟨.host, []⟩⟩ rfl rfl
    { session.shared with channel } queued unchunked isOpen
    (input.delivered payload taken later (.ok accepted))
  rw [input.delivered_offer _ _ _ positive, Nat.min_eq_left within] at stored
  obtain ⟨next, stored, joined'⟩ := stored
  refine ⟨accepted, next, positive, within, ?_, joined'⟩
  have transmitted : Port.send ⟨.host, []⟩ (session.shared.channel.setChunkLimit .host limit) now
      input.timeout (payload.drop taken) .unmade =
        (⟨.host, []⟩, channel.setChunkLimit .host limit, .answered (.ok accepted)) := by
    simp [Port.send, Port.takeAct, Port.actFailure?, Port.transmit, sent, whole, Except.map]
  let side : InputSide Float := ⟨input, .unlimited, ⟨.host, []⟩⟩
  have looked : side.look now (session.shared.limited limit)
      (.writing (.sending payload taken later) .unmade) =
        (side.follow { session.shared with channel }
          (input.delivered payload taken later (.ok accepted))).limited limit := by
    simp only [side, InputSide.look, InputSide.lookSending, ready, Shared.limited_channel,
      transmitted]
    rfl
  have present : (session.setChunkLimit limit).input? = some side := joined.input_eq
  change (session.setChunkLimit limit).onInput _ = _
  rw [Session.onInput, present]
  change (session.setChunkLimit limit).storeInput
    (side.look now (session.shared.limited limit) _) = _
  rw [looked, Session.storeInput_limited, stored]

/-- However a payload is cut by the limit, all of it is sent before the write goes on. -/
theorem sending_limited (now limit : Nat) (joined : Joined session input output inbox)
    (active : input.lifecycle.state = .active) (more : taken < payload.length)
    (later : List Bytes) :
    ∃ reached arrived, Joined reached (input.proceed later).value.1 output (inbox ++ arrived) ∧
      Carries payload.length (payload.drop taken) arrived ∧
      ∀ last final result,
        Session.process.Ends now
          (reached.setChunkLimit limit, writeFind (input.proceed later).value.2) last final result →
        Session.process.Ends now
          (session.setChunkLimit limit, writeFind (.waiting (.sending payload taken later))) last
          final result := by
  induction remaining : payload.length - taken using Nat.strongRecOn
    generalizing taken session inbox with
  | ind remaining ih =>
    have unsent : payload.drop taken ≠ [] := List.ne_nil_of_length_pos (by simp; omega)
    obtain ⟨accepted, next, positive, within, looked, joined⟩ :=
      look_sending_limited now joined active unsent later limit
    have chunk := Carries.take unsent positive (List.drop_sublist taken payload).length_le
    rw [input.offer_value] at looked joined
    by_cases unfinished : taken + accepted < payload.length
    · rw [if_pos unfinished] at looked joined
      obtain ⟨reached, arrived, joined, carries, continues⟩ :=
        ih (payload.length - (taken + accepted)) (by omega) joined unfinished rfl
      have carried := chunk.append carries
      rw [← List.drop_drop, List.take_append_drop] at carried
      refine ⟨reached, _, by rwa [List.append_assoc] at joined, carried, ?_⟩
      intro last final result ends
      refine .ready ?_
      rw [looked]
      exact continues last final result ends
    · rw [if_neg unfinished] at looked joined
      rw [List.take_of_length_le (by rw [List.length_drop]; omega)] at chunk joined
      refine ⟨next, _, joined, chunk, ?_⟩
      intro last final result ends
      refine .ready ?_
      rw [looked]
      exact ends

theorem write_ends_limited (now limit : Nat) (active : input.lifecycle.state = .active)
    (nonempty : ∀ payload ∈ payloads, payload ≠ [])
    (within : ∀ payload ∈ payloads, payload.length ≤ maximum)
    (joined : Joined session (input.proceed payloads).value.1 output inbox) :
    ∃ final arrived,
      Session.process.Ends now
        (session.setChunkLimit limit, writeFind (input.proceed payloads).value.2) now
        (final.setChunkLimit limit) (.ok .done) ∧
      Joined final { input with frameCounter := input.frameCounter + 1 } output
        (inbox ++ arrived) ∧
      Carries maximum payloads.flatten arrived := by
  induction payloads generalizing session inbox with
  | nil => exact ⟨session, [], .finished, by rwa [List.append_nil], .nil maximum⟩
  | cons payload later ih =>
    have ⟨first, rest⟩ := List.forall_mem_cons.mp nonempty
    have ⟨fits, within⟩ := List.forall_mem_cons.mp within
    obtain ⟨asked, asking, joined⟩ := look_asking_limited now joined first later limit
    obtain ⟨reached, arrived, joined, carries, continues⟩ := sending_limited now limit joined
      active (List.length_pos_iff.mpr first) later
    obtain ⟨final, more, ends, joined, others⟩ := ih rest within joined
    rw [List.drop_zero] at carries
    refine ⟨final, arrived ++ more, .ready ?_, by rwa [List.append_assoc] at joined,
      (carries.mono fits).append others⟩
    rw [asking]
    exact continues _ _ _ ends

end Joined

namespace Matched

variable {session : Session} {input : InputStream} {output : OutputStream} {inbox : List Bytes}
  {frame : Bytes} (matched : Matched input output)
include matched

theorem write (now limit : Nat) (active : input.lifecycle.state = .active)
    (joined : Joined session input output inbox) (exact : frame.length = input.layer.frameSize) :
    ∃ final arrived,
      Session.process.Ends now ((Session.Turn.write frame).start (session.setChunkLimit limit)) now
        (final.setChunkLimit limit) (.ok .done) ∧
      Joined final { input with frameCounter := input.frameCounter + 1 } output
        (inbox ++ arrived) ∧
      Carries input.configuration.maximumPayload frame arrived := by
  obtain ⟨started, start, joined⟩ := joined.start_write_limited frame limit
  rw [matched.beginWrite_eq active exact] at start joined
  have positive := input.configuration.payload_pos
  obtain ⟨final, arrived, ends, joined, carries⟩ := Joined.write_ends_limited now limit active
    (fun piece member => List.ne_nil_of_length_pos (pieces_bounds positive member).1)
    (fun piece member => (pieces_bounds positive member).2) joined
  rw [flatten_pieces positive] at carries
  exact ⟨final, arrived, start ▸ ends, joined, carries⟩

theorem read (now limit : Nat) (joined : Joined session input output (arrived ++ inbox))
    (carries : Carries output.configuration.maximumPayload frame arrived)
    (exact : frame.length = output.layer.frameSize) :
    ∃ final,
      Session.process.Ends now (Session.Turn.read.start (session.setChunkLimit limit)) now
        (final.setChunkLimit limit) (.ok (.frame frame)) ∧
      Joined final input output inbox := by
  have run := matched.reads carries exact
  have active : (output.beginRead output.layer.frameSize).value.1.lifecycle.state = .active := by
    have begins := matched.plain.begins
    generalize (output.beginRead output.layer.frameSize).value = state at begins
    cases begins <;> exact matched.plain.active
  obtain ⟨final, ends, joined'⟩ := Joined.read now run active joined
  exact ⟨final, Session.ends_read_unseen (session.start_read_limited limit)
    (fun now session activity => session.look_output_limited now activity limit) ends, joined'⟩

theorem plays (now limit : Nat) {parts : List (List Bytes)}
    (queue : Session.Queue pending turns replies left) (active : input.lifecycle.state = .active)
    (joined : Joined session input output parts.flatten)
    (carried : List.Forall₂ (Carries input.configuration.maximumPayload) pending parts)
    (sized : ∀ frame ∈ pending ++ Session.written turns,
      frame.length = input.layer.frameSize) :
    ∃ final : Session, Session.Plays now (session.setChunkLimit limit) turns (replies.map .ok) now
      (final.setChunkLimit limit) := by
  induction queue generalizing session input parts with
  | nil => exact ⟨session, Session.Plays.done⟩
  | @write pending frame turns replies left queue ih =>
    have next : pending ++ Session.written (.write frame :: turns) =
        pending ++ [frame] ++ Session.written turns := by
      rw [List.append_assoc]
      rfl
    rw [next] at sized
    obtain ⟨between, arrived, ends, joined, carries⟩ :=
      matched.write now limit active joined (sized frame (by simp))
    have carried := List.rel_append carried (.cons carries .nil)
    have counted : Matched { input with frameCounter := input.frameCounter + 1 } output :=
      { matched with }
    obtain ⟨final, plays⟩ := ih counted active (by simpa using joined) carried sized
    exact ⟨final, .turn ends plays⟩
  | @read pending turns replies left frame queue ih =>
    have ⟨exact, sized⟩ := List.forall_mem_cons.mp sized
    cases carried with
    | @cons _ arrived _ parts carries carried =>
      obtain ⟨between, ends, joined⟩ := matched.read now limit joined
        (matched.payload_eq ▸ carries) (exact.trans matched.frameSize_eq.symm)
      obtain ⟨final, plays⟩ := ih matched active joined carried sized
      exact ⟨final, .turn ends plays⟩

end Matched

/-- Streams without markers are byte streams. Whatever is received is cut into frames, each read
taking no more datagrams than it needs; so frames that are sent without padding are read back as
they are, whatever limiter and transport make of the payloads. With a limit on what a single send
takes no write fails for it, and no read that does not get ahead. -/
theorem frames_of_byte_stream :
    (∀ (stream : OutputStream) (datagrams : List Bytes), stream.Reached .idle →
      stream.lifecycle.state = .active → stream.configuration.syncEnabled = false →
      0 < stream.layer.frameSize →
      (∀ datagram ∈ datagrams, datagram.length ≤ stream.configuration.maximumPayload) →
        stream.ReadsBytes datagrams) ∧
    ∀ input output, Matched input output →
      (∀ frames traces final error results, InputStream.WritesAll input frames traces final →
        ((∃ last point, OutputStream.Reads (output.beginRead output.layer.frameSize).value
            ((traces.flatMap datagrams).map .ok ++ [.error error]) results
            (last, .waiting point)) ↔
          results = frames.map .ok ++ [.error error])) ∧
      ∀ session now limit turns replies left, Joined session input output [] →
        input.lifecycle.state = .active → Session.Queue [] turns replies left →
        (∀ frame ∈ Session.written turns, frame.length = input.layer.frameSize) →
          ∃ final : Session, Session.Plays now (session.setChunkLimit limit) turns
            (replies.map .ok) now (final.setChunkLimit limit) := by
  refine ⟨?_, fun input output matched => ⟨?_, ?_⟩⟩
  · intro stream datagrams reached active disabled positive within
    have plain := reached.plain active disabled
    exact plain.readsBytes positive reached.steady.bounded within
  · intro frames traces final error results run
    exact matched.returns run error results
  · intro session now limit turns replies left joined active queue sized
    have nothing : Joined session input output ([] : List (List Bytes)).flatten := joined
    exact matched.plays now limit queue active nothing .nil sized

private theorem exists_bare :
    ∃ (input : InputStream) (output : OutputStream) (session : Session),
      input.layer.frameSize = 3 ∧ output.configuration.maximumPayload = 4 ∧
        input.lifecycle.state = .active ∧
        InputStream.Counts input.configuration input.layer 0 0 input ∧ Matched input output ∧
        Joined session input output [] := by
  let input : InputStream :=
    { layer := ⟨"in", .hostToDevice, 3, 1⟩
      configuration :=
        { maximumPayload := 4, syncEnabled := false, markerSize := 8, padsFrames := false,
          framesPerSync := 1, packetsPerFrame := 1, buffersThreshold := 0,
          payload_pos := by decide, payload_le := by decide, marker_min := by decide,
          marker_lt := by decide, cadence_pos := by decide }
      lifecycle := { name := "in", isActivated := true }, timeout := defaultTimeout
      batchSize := 1 }
  let output (isActivated : Bool) : OutputStream :=
    { layer := ⟨"out", .deviceToHost, 3, 1⟩
      configuration :=
        { maximumPayload := 4, syncEnabled := false, markerSize := 8, buffersThreshold := 0,
          payload_pos := by decide, payload_le := by decide, marker_min := by decide,
          marker_lt := by decide }
      lifecycle := { name := "out", isActivated }, timeout := defaultTimeout, batchSize := 1 }
  have created : OutputStream.create (output false).layer (output false).configuration 1472 =
      .ok ⟨output false, [.outputConfigured "out" 3 4 false 8]⟩ := rfl
  have opened : OutputStream.Runs (output false) .idle [.activate 0 false, .settle true] []
      [.ok .done] (output true) .idle :=
    OutputStream.Runs.step (OutputStream.Responds.activate rfl)
      (OutputStream.Runs.step (OutputStream.Responds.activated rfl) OutputStream.Runs.done)
  have reached : (output true).Reached .idle := ⟨_, _, _, _, _, _, _, _, created, opened⟩
  refine ⟨input, output true,
    { Session.overChannel (Channel.inMemory 1472) ⟨false, fun _ => none⟩ true with
      input? := some { stream := input, limiter := .unlimited, port := ⟨.host, []⟩ }
      output? := some { stream := output true, port := ⟨.device, []⟩ } },
    rfl, rfl, rfl, ⟨rfl, rfl, rfl⟩, ?_, ⟨rfl, rfl, rfl, rfl, rfl⟩⟩
  exact {
    disabled := rfl
    unpadded := rfl
    frameSize_pos := by decide
    reached := reached
    active := rfl
    unmarked := rfl
    empty := rfl
    frameSize_eq := rfl
    payload_eq := rfl }

/-- Two frames are read from datagrams that are cut elsewhere, one of them empty; and two frames
are read that were written, whatever a single send takes. -/
theorem frames_of_byte_stream_cut_elsewhere :
    ∃ (input : InputStream) (output : OutputStream) (session : Session),
      output.layer.frameSize = 3 ∧ output.configuration.maximumPayload = 4 ∧
        output.ReadsBytes [[1, 2], [], [3, 4, 5, 6], [7]] ∧
        (∃ traces final, InputStream.WritesAll input [[1, 2, 3], [4, 5, 6]] traces final ∧
          ∃ last point, OutputStream.Reads (output.beginRead 3).value
            ((traces.flatMap datagrams).map .ok ++ [.error .aborted])
            [.ok [1, 2, 3], .ok [4, 5, 6], .error .aborted] (last, .waiting point)) ∧
        ∀ limit, ∃ final : Session, Session.Plays 0 (session.setChunkLimit limit)
          [.write [1, 2, 3], .write [4, 5, 6], .read, .read]
          [.ok .done, .ok .done, .ok (.frame [1, 2, 3]), .ok (.frame [4, 5, 6])] 0
          (final.setChunkLimit limit) := by
  obtain ⟨input, output, session, three, four, active, counts, matched, joined⟩ := exists_bare
  obtain ⟨reads, sends⟩ := frames_of_byte_stream
  obtain ⟨returns, delivers⟩ := sends input output matched
  have size : output.layer.frameSize = 3 := matched.frameSize_eq.trans three
  have positive : 0 < input.layer.frameSize := matched.frameSize_pos
  have sized : ∀ frame ∈ ([[1, 2, 3], [4, 5, 6]] : List Bytes),
      frame.length = input.layer.frameSize := by
    rw [three]
    decide
  obtain ⟨traces, final, run, _⟩ := InputStream.writesAll_unhindered counts active positive sized
  refine ⟨input, output, session, size, four, ?_, ⟨traces, final, run, ?_⟩, fun limit => ?_⟩
  · apply reads output _ matched.reached matched.active matched.unmarked
    · rw [size]
      decide
    · rw [four]
      decide
  · rw [← size]
    exact (returns _ _ _ _ _ run).mpr rfl
  · exact delivers session 0 limit _ _ [] joined active
      (.write (.write (.read (.read .nil)))) sized

end FrameStream
