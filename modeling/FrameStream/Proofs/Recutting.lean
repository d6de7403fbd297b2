import FrameStream.Proofs.Chunks
import FrameStream.Proofs.Interruption
import FrameStream.Proofs.Numbering

namespace FrameStream

/-- A payload as it is sent where a single send takes so many bytes; without a limit in one go. -/
def cut (limit : Nat) (payload : Bytes) : List Bytes :=
  if limit = 0 then [payload] else pieces limit payload

theorem flatMap_cut_zero (payloads : List Bytes) : payloads.flatMap (cut 0) = payloads :=
  List.flatMap_singleton' payloads

theorem flatten_cut (limit : Nat) (payload : Bytes) : (cut limit payload).flatten = payload := by
  unfold cut
  split
  · exact List.append_nil payload
  · exact flatten_pieces (Nat.pos_of_ne_zero ‹_›) payload

/-- A session with both streams and what waits between them, whatever the limiter. The input
stream's end takes so many bytes in a single send, or everything if the limit is zero. -/
structure Wired (session : Session) (input : InputSide Float) (output : OutputStream)
    (limit : Nat) (inbox : List Bytes) : Prop where
  input_eq : session.input? = some input
  port_eq : input.port = ⟨.host, []⟩
  output_eq : session.output? = some { stream := output, port := ⟨.device, []⟩ }
  inbox_eq : session.shared.channel.device.inbox = inbox
  limit_eq : session.shared.channel.host.chunkLimit = limit
  isOpen : session.shared.channel.device.isOpen = true

def taken (limit offered : Nat) : Nat := if limit = 0 then offered else min offered limit

theorem Channel.send_taken {channel : Channel} (limit_eq : channel.host.chunkLimit = limit)
    (isOpen : channel.device.isOpen = true) (payload : Bytes) :
    ∃ next, channel.send .host payload = (next, .ok (taken limit payload.length)) ∧
      next.device.inbox = channel.device.inbox ++ [payload.take (taken limit payload.length)] ∧
      next.host.chunkLimit = limit ∧ next.device.isOpen = true := by
  have takes : Endpoint.accepted (channel.endpoint .host) payload.length =
      taken limit payload.length := by
    rw [taken, ← limit_eq]
    rfl
  have peer : (channel.endpoint (Side.peer .host)).isOpen = true := isOpen
  refine ⟨(channel.send .host payload).1, ?_⟩
  simp only [send, takes, if_pos peer]
  exact ⟨trivial, rfl, limit_eq, isOpen⟩

theorem taken_pos (positive : 0 < offered) (limit : Nat) : 0 < taken limit offered := by
  unfold taken
  split <;> omega

theorem taken_le (limit offered : Nat) : taken limit offered ≤ offered := by
  unfold taken
  split <;> omega

theorem cut_of_ne_nil (nonempty : payload ≠ []) (limit : Nat) :
    payload.take (taken limit payload.length) ::
        (if taken limit payload.length < payload.length then
          cut limit (payload.drop (taken limit payload.length)) else []) = cut limit payload := by
  unfold cut taken
  by_cases whole : limit = 0
  · simp [whole]
  · have positive := Nat.pos_of_ne_zero whole
    rw [if_neg whole, if_neg whole, if_neg whole, pieces_of_ne_nil positive nonempty]
    by_cases more : limit < payload.length
    · rw [Nat.min_eq_right (Nat.le_of_lt more), if_pos more]
    · have most := Nat.not_lt.mp more
      rw [Nat.min_eq_left most, if_neg (Nat.lt_irrefl _), List.take_length,
        List.take_of_length_le most, List.drop_of_length_le most, pieces_nil positive]

def InputSide.found : Progress WritePoint (Except StreamError Unit) → InputSide.InputLook
  | .waiting point => .ready (.writing point .unmade)
  | .finished result => .finished result

def InputSide.told (found : InputSide.InputLook) :
    Look Session.Activity (Except StreamError Reply) :=
  found.map .input (·.map fun _ => .done)

namespace Wired

variable {session : Session} {input : InputSide Float} {output : OutputStream} {limit : Nat}
  {inbox : List Bytes}

theorem store (wired : Wired session input output limit inbox) (next : InputSide Float)
    (port : next.port = ⟨.host, []⟩) (shared : Shared)
    (inbox_eq : shared.channel.device.inbox = inbox')
    (limit_eq : shared.channel.host.chunkLimit = limit)
    (isOpen : shared.channel.device.isOpen = true) (found : InputSide.InputLook)
    (events : List Event) :
    ∃ reached, session.storeInput ⟨(shared, next, found), events⟩ =
        (reached, InputSide.told found) ∧
      Wired reached next output limit inbox' :=
  ⟨_, rfl, ⟨rfl, port, wired.output_eq, inbox_eq, limit_eq, isOpen⟩⟩

end Wired

/-- Where a write stands that is to send these payloads, when it has changed nothing of its stream
since it started. -/
inductive Stands (origin : InputStream) :
    List Bytes → InputStream → InputSide.InputLook → Prop where
  | written : Stands origin [] { origin with frameCounter := origin.frameCounter + 1 }
      (.finished (.ok ()))
  | failed : Stands origin payloads stream (.finished (.error error))
  | asking : Stands origin (payload :: later) origin
      (.ready (.writing (.asking payload later) .unmade))
  | resting : Stands origin (payload :: later) origin
      (.ready (.writing (.resting wait payload later) .unmade))
  | rests : Stands origin (payload :: later) origin
      (.blocked (.writing (.resting wait payload later) call) wakeUp)
  | sending : Stands origin (payload :: later) origin
      (.ready (.writing (.sending payload 0 later) .unmade))

theorem proceed_stands (origin : InputStream) (payloads : List Bytes) :
    Stands origin payloads (origin.proceed payloads).value.1
      (InputSide.found (origin.proceed payloads).value.2) := by
  cases payloads with
  | nil => exact .written
  | cons => exact .asking

namespace InputSide

variable {input : InputSide Float} {payload : Bytes} {later : List Bytes}

theorem follow_eq (shared : Shared) (input : InputSide Float) (step : InputStream.WriteStep) :
    input.follow shared step =
      ⟨(shared, { input with stream := step.value.1 }, found step.value.2), step.events⟩ := by
  obtain ⟨⟨stream, waiting | finished⟩, events⟩ := step <;> rfl

/-- A look at a write whatever the channel that is shared, if it has nothing to do with it. -/
def LooksAway (now : Nat) (input : InputSide Float) (activity : InputActivity)
    (payloads : List Bytes) : Prop :=
  ∃ next find events,
    (∀ shared, input.look now shared activity = ⟨(shared, next, find), events⟩) ∧
      next.port = input.port ∧ Stands input.stream payloads next.stream find

theorem asking_looksAway (now : Nat) (input : InputSide Float) (nonempty : payload ≠ [])
    (later : List Bytes) :
    LooksAway now input (.writing (.asking payload later) .unmade) (payload :: later) := by
  cases asked : input.limiter.reserve (instantOf now) payload.length with
  | mk limiter answer =>
    refine ⟨{ input with limiter, stream := (input.stream.granted payload later answer).value.1 },
      found (input.stream.granted payload later answer).value.2,
      (input.stream.granted payload later answer).events, fun shared => ?_, rfl, ?_⟩
    · rw [look, asked]
      exact follow_eq shared { input with limiter } _
    · cases answer with
      | error error => exact .failed
      | ok wait =>
        unfold InputStream.granted
        split
        · cases ‹_›
        · rename_i granted
          cases granted
          split
          · rw [input.stream.offer_value, if_pos (List.length_pos_iff.mpr nonempty)]
            exact .sending
          · exact .resting

theorem resting_looksAway (now : Nat) (input : InputSide Float) (wait : Duration)
    (payload : Bytes) (later : List Bytes) (call : Call) :
    LooksAway now input (.writing (.resting wait payload later) call) (payload :: later) := by
  have rested (outcome : Except StreamError Unit) : ∃ next find events,
      (∀ shared, input.follow shared (input.stream.rested payload later outcome) =
        ⟨(shared, next, find), events⟩) ∧
      next.port = input.port ∧ Stands input.stream (payload :: later) next.stream find := by
    refine ⟨_, _, _, fun shared => follow_eq shared input _, rfl, ?_⟩
    cases outcome with
    | error error => exact .failed
    | ok _ => exact .asking
  unfold LooksAway
  simp only [look, lookResting]
  split
  · exact rested _
  · split
    · split
      · exact rested _
      · exact ⟨_, _, _, fun _ => rfl, rfl, .rests⟩
    · exact ⟨_, _, _, fun _ => rfl, rfl, .rests⟩

end InputSide

namespace Wired

variable {session : Session} {input : InputSide Float} {output : OutputStream} {limit : Nat}
  {inbox : List Bytes} {payload : Bytes}

theorem look_away {activity : InputActivity} (wired : Wired session input output limit inbox)
    (next : InputSide Float)
    (looks : ∀ shared, input.look now shared activity = ⟨(shared, next, find), events⟩)
    (port : next.port = input.port) :
    ∃ reached, Session.process.look now session (.input activity) =
        (reached, InputSide.told find) ∧ Wired reached next output limit inbox := by
  change ∃ reached, session.onInput _ = _ ∧ _
  rw [Session.onInput, wired.input_eq]
  dsimp only
  rw [looks]
  exact wired.store next (port.trans wired.port_eq) session.shared wired.inbox_eq wired.limit_eq
    wired.isOpen find events

/-- A look at a send puts as much of a payload on its way as a send takes. -/
theorem look_sending (now : Nat) (wired : Wired session input output limit inbox)
    (active : input.stream.lifecycle.state = .active) (nonempty : payload.drop sent ≠ [])
    (later : List Bytes) :
    let accepted := taken limit (payload.drop sent).length
    let step := input.stream.offer payload (sent + accepted) later
    ∃ reached, Session.process.look now session
          (.input (.writing (.sending payload sent later) .unmade)) =
        (reached, InputSide.told (InputSide.found step.value.2)) ∧
      Wired reached { input with stream := step.value.1 } output limit
        (inbox ++ [(payload.drop sent).take accepted]) := by
  intro accepted step
  have ready := (Lifecycle.ensureActive_eq_ok _).mpr active
  have positive : 0 < accepted := taken_pos (List.length_pos_iff.mpr nonempty) limit
  have within : accepted ≤ payload.length - sent := by
    have most : accepted ≤ (payload.drop sent).length := taken_le limit _
    rwa [List.length_drop] at most
  obtain ⟨channel, sends, queued, limit_eq, isOpen⟩ :=
    Channel.send_taken wired.limit_eq wired.isOpen (payload.drop sent)
  have transmitted : Port.send ⟨.host, []⟩ session.shared.channel now input.stream.timeout
      (payload.drop sent) .unmade = (⟨.host, []⟩, channel, .answered (.ok accepted)) := by
    simp [Port.send, Port.takeAct, Port.actFailure?, Port.transmit, sends, Except.map, accepted]
  have delivered := input.stream.delivered_offer payload sent later positive
  rw [Nat.min_eq_left within] at delivered
  have looked : input.look now session.shared (.writing (.sending payload sent later) .unmade) =
      input.follow { session.shared with channel }
        (input.stream.delivered payload sent later (.ok accepted)) := by
    obtain ⟨stream, limiter, port⟩ := input
    cases wired.port_eq
    simp only [InputSide.look, InputSide.lookSending, ready, transmitted]
    rfl
  change ∃ reached, session.onInput _ = _ ∧ _
  rw [Session.onInput, wired.input_eq]
  dsimp only
  rw [looked, InputSide.follow_eq, delivered]
  exact wired.store { input with stream := step.value.1 } wired.port_eq
    { session.shared with channel } (by rw [queued, wired.inbox_eq]) limit_eq isOpen _ _

/-- However a payload is cut, all of it is sent before the write goes on. -/
theorem sends_cut (now : Nat) (wired : Wired session input output limit inbox)
    (active : input.stream.lifecycle.state = .active) (more : sent < payload.length)
    (later : List Bytes) :
    let step := input.stream.proceed later
    ∃ reached, Wired reached { input with stream := step.value.1 } output limit
        (inbox ++ cut limit (payload.drop sent)) ∧
      ∀ last final result,
        Session.process.Ends now (reached, InputSide.told (InputSide.found step.value.2)) last
          final result →
        Session.process.Ends now
          (session, InputSide.told (.ready (.writing (.sending payload sent later) .unmade))) last
          final result := by
  intro step
  induction remaining : payload.length - sent using Nat.strongRecOn
    generalizing sent session inbox with
  | ind remaining ih =>
    have unsent : payload.drop sent ≠ [] := List.ne_nil_of_length_pos (by simp; omega)
    have positive := taken_pos (List.length_pos_iff.mpr unsent) limit
    obtain ⟨next, looked, wired⟩ := wired.look_sending now active unsent later
    have split := cut_of_ne_nil unsent limit
    rw [List.length_drop] at positive looked wired split
    rw [input.stream.offer_value] at looked wired
    by_cases unfinished : sent + taken limit (payload.length - sent) < payload.length
    · rw [if_pos unfinished] at looked wired
      rw [if_pos (by omega), List.drop_drop] at split
      obtain ⟨reached, wired, continues⟩ := ih _ (by omega) wired unfinished rfl
      rw [List.append_assoc, List.singleton_append, split] at wired
      refine ⟨reached, wired, fun last final result ends => .ready ?_⟩
      rw [looked]
      exact continues last final result ends
    · rw [if_neg unfinished] at looked wired
      rw [if_neg (by omega)] at split
      rw [← split]
      refine ⟨next, wired, fun last final result ends => .ready ?_⟩
      rw [looked]
      exact ends

/-- A look that leaves the channel alone is the same on both sides, and so is what follows. -/
theorem both_look_away {session other : Session} {activity : InputActivity}
    (wired : Wired session input output 0 inbox) (cutting : Wired other input output limit arrived)
    (looks : InputSide.LooksAway now input activity payloads) :
    ∃ next find reached reached', next.port = ⟨.host, []⟩ ∧
      Stands input.stream payloads next.stream find ∧
      Session.process.look now session (.input activity) = (reached, InputSide.told find) ∧
      Session.process.look now other (.input activity) = (reached', InputSide.told find) ∧
      Wired reached next output 0 inbox ∧ Wired reached' next output limit arrived := by
  obtain ⟨next, find, events, looks, port, stands⟩ := looks
  obtain ⟨reached, looked, wired'⟩ := wired.look_away next looks port
  obtain ⟨reached', looked', cutting⟩ := cutting.look_away next looks port
  exact ⟨next, find, reached, reached', port.trans wired.port_eq, stands, looked, looked', wired',
    cutting⟩

theorem look_sending_stopped {final : Session} (wired : Wired session input output limit inbox)
    (stopped : input.stream.lifecycle.state ≠ .active) :
    ¬ Session.process.Ends now
      (Session.process.look now session (.input (.writing (.sending payload sent later) call))) last
      final (.ok .done) := by
  have reached : session.state? .input = some input.stream.lifecycle.state :=
    congrArg (Option.map _) wired.input_eq
  rw [Session.look_stopped now .sending reached stopped]
  nofun

/-- A write that succeeds where nothing is cut succeeds where payloads are, at the same time, and
has then sent the same payloads, cut. -/
theorem write_goes_on {session other final : Session} {find : InputSide.InputLook}
    (ends : Session.process.Ends now (session, InputSide.told find) last final (.ok .done))
    (stands : Stands origin payloads stream find) (same : input.stream = stream)
    (nonempty : ∀ payload ∈ payloads, payload ≠ [])
    (wired : Wired session input output 0 inbox)
    (cutting : Wired other input output limit arrived) :
    ∃ reached next, Session.process.Ends now (other, InputSide.told find) last reached (.ok .done) ∧
      next.stream = { origin with frameCounter := origin.frameCounter + 1 } ∧
      Wired final next output 0 (inbox ++ payloads) ∧
      Wired reached next output limit (arrived ++ payloads.flatMap (cut limit)) := by
  generalize start : (session, InputSide.told find) = looked at ends
  generalize reply : Except.ok Reply.done = result at ends
  induction ends generalizing session other input find stream payloads inbox arrived with
  | finished =>
    cases stands with
    | written =>
      cases start
      refine ⟨other, input, .finished, same, ?_, ?_⟩
      · rwa [List.append_nil]
      · rwa [List.flatMap_nil, List.append_nil]
    | failed =>
      cases reply
      cases start
    | asking | resting | rests | sending => cases start
  | @ready now world _ _ _ _ rest ih =>
    cases stands with
    | written | failed | rests => cases start
    | @asking payload later =>
      cases start
      have ⟨first, _⟩ := List.forall_mem_cons.mp nonempty
      obtain ⟨next, find, _, _, _, stands, looked, looked', wired, cutting⟩ :=
        wired.both_look_away cutting (input.asking_looksAway now first later)
      obtain ⟨reached, final, ends, written⟩ :=
        ih (same ▸ stands) rfl nonempty wired cutting looked.symm reply
      exact ⟨reached, final, .ready (looked' ▸ ends), written⟩
    | @resting payload later wait =>
      cases start
      obtain ⟨next, find, _, _, _, stands, looked, looked', wired, cutting⟩ :=
        wired.both_look_away cutting (input.resting_looksAway now wait payload later .unmade)
      obtain ⟨reached, final, ends, written⟩ :=
        ih (same ▸ stands) rfl nonempty wired cutting looked.symm reply
      exact ⟨reached, final, .ready (looked' ▸ ends), written⟩
    | @sending payload later =>
      cases start
      subst same
      have ⟨first, others⟩ := List.forall_mem_cons.mp nonempty
      have active : input.stream.lifecycle.state = .active :=
        Classical.byContradiction fun stopped =>
          wired.look_sending_stopped stopped (reply.symm ▸ rest)
      have present : payload.drop 0 ≠ [] := first
      obtain ⟨next, looked, wired⟩ := wired.look_sending now active present later
      have whole : ¬ 0 + taken 0 (payload.drop 0).length < payload.length :=
        Nat.not_lt.mpr (Nat.le_of_eq (Nat.zero_add _).symm)
      rw [input.stream.offer_value, if_neg whole] at looked wired
      have all : (payload.drop 0).take (taken 0 (payload.drop 0).length) = payload :=
        List.take_length
      rw [all] at wired
      -- One look has sent the payload; the other session takes one for each of its pieces.
      obtain ⟨next', cutting, continues⟩ :=
        cutting.sends_cut now active (List.length_pos_iff.mpr first) later
      obtain ⟨reached, last, ends, written, wired, cutting⟩ :=
        ih (proceed_stands input.stream later) rfl others wired cutting looked.symm reply
      rw [List.append_assoc, List.singleton_append] at wired
      rw [List.append_assoc, List.drop_zero, ← List.flatMap_cons] at cutting
      exact ⟨reached, last, continues _ _ _ ends, written, wired, cutting⟩
  | @woken wake world _ _ _ _ _ _ ih =>
    cases stands with
    | written | failed | asking | resting | sending => cases start
    | @rests payload later wait call =>
      cases start
      obtain ⟨next, find, _, _, _, stands, looked, looked', wired, cutting⟩ :=
        wired.both_look_away cutting (input.resting_looksAway wake wait payload later call)
      obtain ⟨reached, final, ends, written⟩ :=
        ih (same ▸ stands) rfl nonempty wired cutting looked.symm reply
      exact ⟨reached, final, .woken (looked' ▸ ends), written⟩

theorem start_write (wired : Wired session input output limit inbox) (frame : Bytes) :
    let step := input.stream.beginWrite frame
    ∃ reached, (Session.Turn.write frame).start session =
        (reached, InputSide.told (InputSide.found step.value.2)) ∧
      Wired reached { input with stream := step.value.1 } output limit inbox := by
  rw [Session.Turn.start, Session.onInput, wired.input_eq]
  dsimp only [InputSide.write]
  rw [InputSide.follow_eq]
  exact wired.store { input with stream := (input.stream.beginWrite frame).value.1 } wired.port_eq
    session.shared wired.inbox_eq wired.limit_eq wired.isOpen _ _

end Wired

/-- A frame on its way, and the marker that it is sent behind if it has one. -/
structure Parcel where
  marker? : Option SyncMarker
  frame : Bytes

namespace Parcel

/-- The payloads that a parcel is sent as. -/
def payloads (configuration : InputConfiguration) (parcel : Parcel) : List Bytes :=
  configuration.payloads parcel.marker? parcel.frame

/-- A parcel of a stream that marks every frame, or none. -/
structure Fits (configuration : InputConfiguration) (frameSize : Nat) (parcel : Parcel) :
    Prop where
  exact : parcel.frame.length = frameSize
  marked : parcel.marker?.isSome = configuration.syncEnabled

variable {configuration : InputConfiguration} {frameSize : Nat} {parcel : Parcel}

theorem Fits.room (fits : Fits configuration frameSize parcel) :
    (configuration.header parcel.marker?).length < configuration.maximumPayload := by
  obtain ⟨marker?, frame⟩ := parcel
  cases marker? with
  | none => exact configuration.payload_pos
  | some marker =>
    have enabled := fits.marked.symm
    rw [InputConfiguration.header, Option.map_some, Option.getD_some,
      marker.encode_length (configuration.marker_min enabled)]
    exact configuration.marker_lt enabled

theorem Fits.payloads_nonempty (fits : Fits configuration frameSize parcel) :
    ∀ payload ∈ parcel.payloads configuration, payload ≠ [] :=
  InputConfiguration.payloads_nonempty (Nat.le_of_lt fits.room)

end Parcel

/-- A stream that marks every frame, or none, and pads none. -/
structure InputStream.Uniform (stream : InputStream) : Prop where
  unpadded : stream.configuration.padsFrames = false
  everyFrame : stream.configuration.syncEnabled = true → stream.configuration.framesPerSync = 1

namespace InputStream

variable {stream : InputStream}

theorem Uniform.nextMarker?_isSome (uniform : stream.Uniform) :
    stream.nextMarker?.isSome = stream.configuration.syncEnabled := by
  unfold nextMarker?
  cases enabled : stream.configuration.syncEnabled with
  | false => rfl
  | true =>
    rw [uniform.everyFrame enabled]
    simp

end InputStream

namespace Wired

variable {session other final : Session} {input : InputSide Float} {output : OutputStream}
  {limit : Nat} {inbox arrived : List Bytes} {frame : Bytes}

theorem write (uniform : input.stream.Uniform)
    (ends : Session.process.Ends now ((Session.Turn.write frame).start session) last final
      (.ok .done))
    (wired : Wired session input output 0 inbox)
    (cutting : Wired other input output limit arrived) :
    ∃ (parcel : Parcel) (reached : Session) (next : InputSide Float), parcel.frame = frame ∧
      parcel.Fits input.stream.configuration input.stream.layer.frameSize ∧
      Session.process.Ends now ((Session.Turn.write frame).start other) last reached (.ok .done) ∧
      next.stream.configuration = input.stream.configuration ∧
      next.stream.layer = input.stream.layer ∧
      Wired final next output 0 (inbox ++ parcel.payloads input.stream.configuration) ∧
      Wired reached next output limit
        (arrived ++ (parcel.payloads input.stream.configuration).flatMap (cut limit)) := by
  obtain ⟨started, start, wired⟩ := wired.start_write frame
  obtain ⟨started', start', cutting⟩ := cutting.start_write frame
  rw [start] at ends
  rcases input.stream.beginWrite_cases frame with ⟨error, failed⟩ | ⟨exact, active⟩
  · rw [failed] at ends
    cases ends
  · have fits : Parcel.Fits input.stream.configuration input.stream.layer.frameSize
        ⟨input.stream.nextMarker?, frame⟩ :=
      ⟨exact, uniform.nextMarker?_isSome⟩
    rw [InputStream.beginWrite_drawn active exact] at ends wired start' cutting
    obtain ⟨reached, next, ends, written, wired, cutting⟩ := wired.write_goes_on ends
      (proceed_stands _ _) rfl fits.payloads_nonempty cutting
    obtain ⟨syncIndex, drawn⟩ := input.stream.drawn_changes
    rw [drawn] at written
    exact ⟨_, reached, next, rfl, fits, start' ▸ ends, by rw [written], by rw [written], wired,
      cutting⟩

theorem writes (uniform : input.stream.Uniform)
    (plays : Session.Plays now session (frames.map .write) results last final)
    (succeeded : ∀ result ∈ results, result = .ok .done)
    (wired : Wired session input output 0 inbox)
    (cutting : Wired other input output limit arrived) :
    ∃ (parcels : List Parcel) (reached : Session) (next : InputSide Float),
      parcels.map Parcel.frame = frames ∧
      (∀ parcel ∈ parcels,
        parcel.Fits input.stream.configuration input.stream.layer.frameSize) ∧
      Session.Plays now other (frames.map .write) results last reached ∧
      Wired final next output 0
        (inbox ++ parcels.flatMap (Parcel.payloads input.stream.configuration)) ∧
      Wired reached next output limit (arrived ++
        (parcels.flatMap (Parcel.payloads input.stream.configuration)).flatMap (cut limit)) := by
  induction frames generalizing now session other input inbox arrived results with
  | nil =>
    cases plays
    refine ⟨[], other, input, rfl, nofun, .done, ?_, ?_⟩
    · rwa [List.flatMap_nil, List.append_nil]
    · rwa [List.flatMap_nil, List.flatMap_nil, List.append_nil]
  | cons frame frames ih =>
    cases plays with
    | turn ends plays =>
      rw [List.forall_mem_cons] at succeeded
      obtain ⟨rfl, succeeded⟩ := succeeded
      obtain ⟨parcel, _, next, rfl, fits, ends, same, layer, wired, cutting⟩ :=
        wired.write uniform ends cutting
      have uniform : next.stream.Uniform :=
        ⟨same ▸ uniform.unpadded, same ▸ uniform.everyFrame⟩
      obtain ⟨parcels, reached, last, rfl, all, plays, wired, cutting⟩ :=
        ih uniform plays succeeded wired cutting
      rw [same, layer] at all
      rw [same, List.append_assoc] at wired cutting
      refine ⟨parcel :: parcels, reached, last, rfl, List.forall_mem_cons.mpr ⟨fits, all⟩,
        .turn ends plays, ?_, ?_⟩
      · rwa [List.flatMap_cons]
      · rwa [List.flatMap_cons, List.flatMap_append]

end Wired

end FrameStream
