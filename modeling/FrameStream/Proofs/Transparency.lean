import FrameStream.Proofs.Joining
import FrameStream.Proofs.Recutting

namespace FrameStream

theorem Carries.cut (nonempty : payload ≠ []) (within : payload.length ≤ maximum) (limit : Nat) :
    Carries maximum payload (cut limit payload) := by
  refine ⟨flatten_cut limit payload, ?_, fun piece member => ?_⟩
  · unfold FrameStream.cut
    split
    · exact List.forall_mem_singleton.mpr nonempty
    · intro piece member
      exact List.ne_nil_of_length_pos (pieces_bounds (Nat.pos_of_ne_zero ‹_›) member).1
  · have part := (List.sublist_flatten_of_mem member).length_le
    rw [flatten_cut] at part
    exact Nat.le_trans part within

theorem Carries.flatMap_cut {payloads : List Bytes} (nonempty : ∀ payload ∈ payloads, payload ≠ [])
    (within : ∀ payload ∈ payloads, payload.length ≤ maximum) (limit : Nat) :
    Carries maximum payloads.flatten (payloads.flatMap (FrameStream.cut limit)) := by
  induction payloads with
  | nil => exact .nil maximum
  | cons payload payloads ih =>
    have ⟨first, nonempty⟩ := List.forall_mem_cons.mp nonempty
    have ⟨fits, within⟩ := List.forall_mem_cons.mp within
    exact (Carries.cut first fits limit).append (ih nonempty within)

namespace OutputStream

variable {configuration : OutputConfiguration} {layer : Layer} {stream : OutputStream}

section Cut

variable {first frame : Bytes} {rest : List Bytes}
  (receiving : Receiving configuration layer stream) (aligned : stream.isHunting = false)
  (positive : 0 < layer.frameSize) (exact : frame.length = layer.frameSize)
include receiving aligned positive exact

/-- What the first datagram of a frame begins, the others complete. -/
theorem reads_carried (carries : Carries configuration.maximumPayload bytes (first :: rest))
    (started : Receiving configuration layer next)
    (received : (stream.received (.assembling [] false) (.ok first)).value =
      (next.settle data true).value)
    (whole : data ++ rest.flatten = frame) :
    Reads (stream.beginRead stream.layer.frameSize).value ((first :: rest).map .ok) []
      (next, .finished (.ok frame)) := by
  have fresh : stream.freshPoint = .assembling [] false := by simp [freshPoint, aligned]
  obtain ⟨_, solid⟩ := List.forall_mem_cons.mp carries.solid
  obtain ⟨fits, within⟩ := List.forall_mem_cons.mp carries.within
  have room : data.length + rest.flatten.length ≤ layer.frameSize := by
    rw [← List.length_append, whole]
    exact Nat.le_of_eq exact
  rw [beginRead_fresh receiving positive, fresh]
  refine .receive_within receiving fits ?_
  have run := reads_rest started within solid room
  rwa [whole, settle_of_eq started true exact, ← received] at run

theorem reads_unmarked_carried (disabled : configuration.syncEnabled = false)
    (carries : Carries configuration.maximumPayload frame arrived) :
    Reads (stream.beginRead stream.layer.frameSize).value (arrived.map .ok) []
      (stream, .finished (.ok frame)) := by
  cases arrived with
  | nil =>
    have none : frame.length = 0 := by rw [← carries.whole]; rfl
    omega
  | cons first rest =>
    have whole : first ++ rest.flatten = frame := carries.whole
    have room : first.length ≤ layer.frameSize := by
      rw [← exact, ← whole, List.length_append]
      exact Nat.le_add_right _ _
    refine reads_carried receiving aligned positive exact carries receiving ?_ whole
    exact received_data receiving (by rwa [List.length_nil, Nat.zero_add]) fun looked => by
      rw [disabled] at looked
      cases looked

/-- A frame behind a marker is read from what carries both, if the marker is not cut. -/
theorem reads_marked_carried (enabled : configuration.syncEnabled = true) (marker : SyncMarker)
    (carries : Carries configuration.maximumPayload
      (marker.encode configuration.markerSize ++ frame) (first :: rest))
    (uncut : configuration.markerSize ≤ first.length) :
    Reads (stream.beginRead stream.layer.frameSize).value ((first :: rest).map .ok) []
      ((stream.observe marker.index).value, .finished (.ok frame)) := by
  have minimum := configuration.marker_min enabled
  have length := marker.encode_length minimum
  have bytes : first ++ rest.flatten = marker.encode configuration.markerSize ++ frame :=
    carries.whole
  have opens : marker.encode configuration.markerSize <+: first :=
    List.prefix_of_prefix_length_le (List.prefix_append _ _) (bytes ▸ List.prefix_append _ _)
      (by rwa [length])
  obtain ⟨data, rfl⟩ := opens
  rw [List.append_assoc, List.append_cancel_left_eq] at bytes
  have left : (marker.encode configuration.markerSize ++ data).drop configuration.markerSize =
      data := by
    conv in List.drop _ => rw [← length]
    exact List.drop_left
  have room : data.length ≤ layer.frameSize := by
    rw [← exact, ← bytes, List.length_append]
    exact Nat.le_add_right _ _
  refine reads_carried receiving aligned positive exact carries
    (receiving.observe marker.index) ?_ bytes
  have fits : ([] : Bytes).length + ((marker.encode configuration.markerSize ++ data).drop
      configuration.markerSize).length ≤ layer.frameSize := by
    rwa [left, List.length_nil, Nat.zero_add]
  have received := received_marker receiving enabled (marker.decode?_encode data minimum) fits
  rwa [left] at received

end Cut

/-- What a stream notes of a parcel that it reads. A frame without bytes is never sent. -/
def noting (stream : OutputStream) (parcel : Parcel) : OutputStream :=
  match parcel.marker? with
  | some marker => if parcel.frame = [] then stream else (stream.observe marker.index).value
  | none => stream

theorem Receiving.noting (receiving : Receiving configuration layer stream) (parcel : Parcel) :
    Receiving configuration layer (stream.noting parcel) := by
  unfold OutputStream.noting
  split
  · split
    · exact receiving
    · exact receiving.observe _
  · exact receiving

theorem isHunting_noting (stream : OutputStream) (parcel : Parcel) :
    (stream.noting parcel).isHunting = stream.isHunting := by
  unfold noting observe
  dsimp only
  split
  · split
    · rfl
    · split <;> rfl
  · rfl

theorem beginRead_void (receiving : Receiving configuration layer stream)
    (aligned : stream.isHunting = false) (void : layer.frameSize = 0) :
    (stream.beginRead stream.layer.frameSize).value = (stream, .finished (.ok [])) := by
  have ready := (Lifecycle.ensureActive_eq_ok _).mpr receiving.active
  have unchanged : { stream with leftover := [] } = stream := by rw [← receiving.empty]
  have looking : ¬ stream.isHunting = true := by simp [aligned]
  unfold beginRead
  rw [if_neg (fun other => other rfl), ready]
  simp only [if_neg looking, beginFrame, receiving.empty, List.take_nil, List.drop_nil, unchanged]
  exact settle_of_eq receiving _ void.symm

theorem Receiving.begins (receiving : Receiving configuration layer stream)
    (aligned : stream.isHunting = false) :
    (stream.beginRead stream.layer.frameSize).value.1.lifecycle.state = .active := by
  rcases Nat.eq_zero_or_pos layer.frameSize with void | positive
  · rw [beginRead_void receiving aligned void]
    exact receiving.active
  · rw [beginRead_fresh receiving positive]
    exact receiving.active

end OutputStream

namespace Parcel

variable {sending : InputConfiguration} {frameSize limit : Nat} {parcel : Parcel}

theorem Fits.payloads_eq (fits : parcel.Fits sending frameSize)
    (unpadded : sending.padsFrames = false) (nonempty : parcel.frame ≠ []) :
    parcel.payloads sending =
      pieces sending.maximumPayload (sending.header parcel.marker? ++ parcel.frame) := by
  rw [payloads, InputConfiguration.payloads_eq_image (Nat.le_of_lt fits.room) nonempty,
    InputConfiguration.image_of_unpadded unpadded nonempty]

theorem Fits.carries (fits : parcel.Fits sending frameSize)
    (unpadded : sending.padsFrames = false) (nonempty : parcel.frame ≠ []) (limit : Nat) :
    Carries sending.maximumPayload (sending.header parcel.marker? ++ parcel.frame)
      ((parcel.payloads sending).flatMap (cut limit)) := by
  have positive := sending.payload_pos
  have bounded : ∀ payload ∈ parcel.payloads sending, payload.length ≤ sending.maximumPayload := by
    intro payload member
    rw [fits.payloads_eq unpadded nonempty] at member
    exact (pieces_bounds positive member).2
  have carries := Carries.flatMap_cut fits.payloads_nonempty bounded limit
  rwa [fits.payloads_eq unpadded nonempty, flatten_pieces positive,
    ← fits.payloads_eq unpadded nonempty] at carries

theorem Fits.first_datagram (fits : parcel.Fits sending frameSize)
    (unpadded : sending.padsFrames = false) (nonempty : parcel.frame ≠ []) (limit : Nat) :
    let bytes := sending.header parcel.marker? ++ parcel.frame
    ∃ rest, (parcel.payloads sending).flatMap (cut limit) =
      bytes.take (taken limit (min sending.maximumPayload bytes.length)) :: rest := by
  intro bytes
  have some : bytes ≠ [] := by simp [bytes, nonempty]
  have opening : bytes.take sending.maximumPayload ≠ [] := by
    simp [some, Nat.ne_of_gt sending.payload_pos]
  have within : taken limit (min sending.maximumPayload bytes.length) ≤ sending.maximumPayload :=
    Nat.le_trans (taken_le limit _) (Nat.min_le_left _ _)
  rw [fits.payloads_eq unpadded nonempty, pieces_of_ne_nil sending.payload_pos some,
    List.flatMap_cons, ← cut_of_ne_nil opening limit, List.length_take, List.take_take,
    Nat.min_eq_left within]
  exact ⟨_, rfl⟩

/-- A marker is not cut by a limit that it fits in. -/
theorem Fits.uncut (fits : parcel.Fits sending frameSize) (unpadded : sending.padsFrames = false)
    (nonempty : parcel.frame ≠ []) (large : limit = 0 ∨ size ≤ limit)
    (header : (sending.header parcel.marker?).length = size) :
    ∃ first rest, (parcel.payloads sending).flatMap (cut limit) = first :: rest ∧
      size ≤ first.length := by
  have room := fits.room
  obtain ⟨rest, split⟩ := fits.first_datagram unpadded nonempty limit
  refine ⟨_, rest, split, ?_⟩
  rw [List.length_take, List.length_append, taken]
  split <;> omega

/-- A stream reads a parcel as its frame, however it was cut, if no marker was. -/
theorem Fits.reads (fits : parcel.Fits sending frameSize) (unpadded : sending.padsFrames = false)
    (receiving : OutputStream.Receiving configuration layer stream)
    (aligned : stream.isHunting = false) (framing : configuration.toFraming = sending.toFraming)
    (frameSize_eq : layer.frameSize = frameSize)
    (large : sending.syncEnabled = true → 0 < frameSize →
      limit = 0 ∨ sending.markerSize ≤ limit) :
    OutputStream.Reads (stream.beginRead stream.layer.frameSize).value
      (((parcel.payloads sending).flatMap (cut limit)).map .ok) []
      (stream.noting parcel, .finished (.ok parcel.frame)) := by
  have exact : parcel.frame.length = layer.frameSize := fits.exact.trans frameSize_eq.symm
  obtain ⟨marker?, frame⟩ := parcel
  by_cases void : frame = []
  · subst void
    have noted : stream.noting ⟨marker?, []⟩ = stream := by cases marker? <;> rfl
    have none : (Parcel.mk marker? []).payloads sending = [] := by
      simp [payloads, InputConfiguration.payloads]
    rw [noted, none, OutputStream.beginRead_void receiving aligned exact.symm]
    exact .done
  · have positive : 0 < layer.frameSize := exact ▸ List.length_pos_iff.mpr void
    have carries := fits.carries unpadded void limit
    have enabled : marker?.isSome = configuration.syncEnabled := framing ▸ fits.marked
    cases marker? with
    | none =>
      rw [← framing] at carries
      exact OutputStream.reads_unmarked_carried receiving aligned positive exact enabled.symm
        carries
    | some marker =>
      have length := marker.encode_length (sending.marker_min fits.marked.symm)
      obtain ⟨first, rest, split, uncut⟩ := fits.uncut unpadded void
        (large fits.marked.symm (frameSize_eq ▸ positive)) length
      change Carries sending.maximumPayload (marker.encode sending.markerSize ++ frame) _ at carries
      rw [split] at carries ⊢
      rw [← framing] at carries uncut
      have run := OutputStream.reads_marked_carried receiving aligned positive exact enabled.symm
        marker carries uncut
      have noted : stream.noting ⟨some marker, frame⟩ = (stream.observe marker.index).value :=
        if_neg void
      rwa [noted]

end Parcel

namespace Session

variable {session : Session}

/-- The same session but for how its input stream sends. -/
def rewired (input : InputSide Float) (limit : Nat) (session : Session) : Session :=
  { session with input? := some input }.setChunkLimit limit

theorem look_output_rewired (now : Nat) (session : Session) (activity : OutputActivity)
    (input : InputSide Float) (limit : Nat) :
    process.look now (session.rewired input limit) (.output activity) =
      ((process.look now session (.output activity)).1.rewired input limit,
        (process.look now session (.output activity)).2) := by
  rw [rewired, look_output_limited]
  obtain ⟨_, _, _, _, _ | _, _⟩ := session <;> rfl

theorem start_read_rewired (session : Session) (input : InputSide Float) (limit : Nat) :
    Turn.read.start (session.rewired input limit) =
      ((Turn.read.start session).1.rewired input limit, (Turn.read.start session).2) := by
  rw [rewired, start_read_limited]
  obtain ⟨_, _, _, _, _ | _, _⟩ := session <;> rfl

end Session

namespace Wired

variable {session : Session} {input : InputSide Float} {output : OutputStream} {limit : Nat}
  {inbox arrived : List Bytes}

theorem unhindered (wired : Wired session input output limit inbox) :
    ∃ plain, Joined plain input.stream output inbox ∧ session = plain.rewired input limit := by
  refine ⟨session.rewired ⟨input.stream, .unlimited, ⟨.host, []⟩⟩ 0,
    ⟨rfl, wired.output_eq, wired.inbox_eq, rfl, wired.isOpen⟩, ?_⟩
  have found := wired.input_eq
  have limited := wired.limit_eq
  obtain ⟨⟨⟨_, ⟨_, _, _, _, _⟩, _⟩, _⟩, _, _, _, _, _⟩ := session
  cases found
  cases limited
  rfl

theorem read (now : Nat)
    (run : OutputStream.Reads (output.beginRead output.layer.frameSize).value (arrived.map .ok) []
      (last, .finished result))
    (active : (output.beginRead output.layer.frameSize).value.1.lifecycle.state = .active)
    (wired : Wired session input output limit (arrived ++ inbox)) :
    ∃ final, Session.process.Ends now (Session.Turn.read.start session) now final
        (result.map .frame) ∧
      Wired final input last limit inbox := by
  obtain ⟨plain, joined, rfl⟩ := wired.unhindered
  obtain ⟨final, ends, joined⟩ := joined.read now run active
  refine ⟨final.rewired input limit, ?_,
    ⟨rfl, wired.port_eq, joined.output_eq, joined.inbox_eq, rfl, joined.isOpen⟩⟩
  exact Session.ends_read_unseen (plain.start_read_rewired input limit)
    (fun now session activity => session.look_output_rewired now activity input limit) ends

theorem reads (now : Nat) {sending : InputConfiguration} {parcels : List Parcel}
    {configuration : OutputConfiguration} {layer : Layer}
    (fit : ∀ parcel ∈ parcels, parcel.Fits sending layer.frameSize)
    (unpadded : sending.padsFrames = false) (framing : configuration.toFraming = sending.toFraming)
    (large : sending.syncEnabled = true → 0 < layer.frameSize →
      limit = 0 ∨ sending.markerSize ≤ limit)
    (receiving : OutputStream.Receiving configuration layer output)
    (aligned : output.isHunting = false)
    (wired : Wired session input output limit
      ((parcels.flatMap (Parcel.payloads sending)).flatMap (cut limit))) :
    ∃ final, Session.Plays now session (List.replicate parcels.length .read)
        (parcels.map fun parcel => .ok (.frame parcel.frame)) now final ∧
      Wired final input (parcels.foldl OutputStream.noting output) limit [] := by
  induction parcels generalizing session output with
  | nil => exact ⟨session, .done, wired⟩
  | cons parcel parcels ih =>
    have ⟨first, others⟩ := List.forall_mem_cons.mp fit
    rw [List.flatMap_cons, List.flatMap_append] at wired
    obtain ⟨between, ends, wired⟩ := wired.read now
      (first.reads unpadded receiving aligned framing rfl large) (receiving.begins aligned)
    obtain ⟨final, plays, wired⟩ := ih others (receiving.noting parcel)
      ((output.isHunting_noting parcel).trans aligned) wired
    exact ⟨final, .turn ends plays, wired⟩

end Wired

def Session.batch (frames : List Bytes) : List Session.Turn :=
  frames.map .write ++ List.replicate frames.length .read

theorem Session.Plays.length_eq
    (plays : Session.Plays now session turns results last final) :
    results.length = turns.length := by
  induction plays with
  | done => rfl
  | turn _ _ ih => exact congrArg (· + 1) ih

def Session.batchReplies (frames : List Bytes) : List (Except StreamError Reply) :=
  List.replicate frames.length (.ok .done) ++ frames.map fun frame => .ok (.frame frame)

/-- Two streams of a session, both without padding and with framings that agree, every frame behind
a marker or none. The output stream is active and has nothing left over. -/
structure Coupled (session : Session) (input : InputSide Float) (output : OutputStream) :
    Prop extends Wired session input output 0 [], input.stream.Uniform where
  framing_eq : output.configuration.toFraming = input.stream.configuration.toFraming
  frameSize_eq : output.layer.frameSize = input.stream.layer.frameSize
  active : output.lifecycle.state = .active
  empty : output.leftover = []
  aligned : output.isHunting = false

namespace Coupled

variable {session : Session} {input : InputSide Float} {output : OutputStream} {frames : List Bytes}

theorem receiving (coupled : Coupled session input output) :
    OutputStream.Receiving output.configuration output.layer output :=
  ⟨rfl, rfl, coupled.active, coupled.empty, fun hunting => by
    rw [coupled.aligned] at hunting
    cases hunting⟩

theorem limited (coupled : Coupled session input output) (limit : Nat) :
    Wired (session.setChunkLimit limit) input output limit [] :=
  ⟨coupled.input_eq, coupled.port_eq, coupled.output_eq, coupled.inbox_eq, rfl, coupled.isOpen⟩

theorem joined (coupled : Coupled session input output) (unlimited : input.limiter = .unlimited) :
    Joined session input.stream output [] := by
  have same : input = { stream := input.stream, limiter := .unlimited, port := ⟨.host, []⟩ } := by
    rw [← unlimited, ← coupled.port_eq]
  exact ⟨same ▸ coupled.input_eq, coupled.output_eq, coupled.inbox_eq, coupled.limit_eq,
    coupled.isOpen⟩

/-- Frames that are written where nothing is cut are read there, and are so where payloads are cut
but no marker is. -/
theorem plays_batch (coupled : Coupled session input output)
    (large : input.stream.configuration.syncEnabled = true → 0 < output.layer.frameSize →
      input.stream.configuration.markerSize ≤ limit)
    (written : Session.Plays now session (frames.map .write)
      (List.replicate frames.length (.ok .done)) last between) :
    ∃ final other, Session.Plays now session (Session.batch frames) (Session.batchReplies frames)
        last final ∧
      Session.Plays now (session.setChunkLimit limit) (Session.batch frames)
        (Session.batchReplies frames) last other ∧
      other.output? = final.output? := by
  obtain ⟨parcels, between', next, rfl, fit, written', wired, cutting⟩ :=
    coupled.toWired.writes coupled.toUniform written
      (fun _ member => List.eq_of_mem_replicate member) (coupled.limited limit)
  have fit : ∀ parcel ∈ parcels,
      parcel.Fits input.stream.configuration output.layer.frameSize :=
    coupled.frameSize_eq ▸ fit
  rw [List.nil_append, ← flatMap_cut_zero (parcels.flatMap _)] at wired
  rw [List.nil_append] at cutting
  obtain ⟨final, read, wired⟩ := wired.reads last fit coupled.unpadded coupled.framing_eq
    (fun _ _ => .inl rfl) coupled.receiving coupled.aligned
  obtain ⟨other, read', cutting⟩ := cutting.reads last fit coupled.unpadded coupled.framing_eq
    (fun enabled positive => .inr (large enabled positive)) coupled.receiving coupled.aligned
  have turns : Session.batch (parcels.map Parcel.frame) =
      (parcels.map Parcel.frame).map .write ++ List.replicate parcels.length .read := by
    rw [Session.batch, List.length_map]
  have replies : Session.batchReplies (parcels.map Parcel.frame) =
      List.replicate (parcels.map Parcel.frame).length (.ok .done) ++
        parcels.map fun parcel => .ok (.frame parcel.frame) := by
    rw [Session.batchReplies, List.map_map]
    rfl
  rw [turns, replies]
  exact ⟨final, other, written.append read, written'.append read',
    cutting.output_eq.trans wired.output_eq.symm⟩

/-- A marker that is cut to the size of a frame is read as one. -/
theorem plays_cut_marker (coupled : Coupled session input output)
    (enabled : input.stream.configuration.syncEnabled = true)
    (positive : 0 < output.layer.frameSize)
    (small : output.layer.frameSize < input.stream.configuration.markerSize)
    (written : Session.Plays now session [.write frame] [.ok .done] last between) :
    ∃ (marker : SyncMarker) (other : Session),
      Session.Plays now (session.setChunkLimit output.layer.frameSize) [.write frame, .read]
        [.ok .done, .ok (.frame
          ((marker.encode input.stream.configuration.markerSize).take output.layer.frameSize))]
        last other ∧
      other.output? = session.output? := by
  generalize size : output.layer.frameSize = limit at positive small ⊢
  have written : Session.Plays now session ([frame].map .write) [.ok .done] last between := written
  obtain ⟨parcels, _, _, single, fit, written, _, cutting⟩ :=
    coupled.toWired.writes coupled.toUniform written
      (List.forall_mem_singleton.mpr rfl) (coupled.limited limit)
  obtain ⟨parcel, rfl, rfl⟩ := List.map_eq_singleton_iff.mp single
  have fits := fit parcel (List.mem_singleton_self parcel)
  have exact : parcel.frame.length = limit :=
    fits.exact.trans (coupled.frameSize_eq.symm.trans size)
  have nonempty : parcel.frame ≠ [] := List.ne_nil_of_length_pos (exact ▸ positive)
  obtain ⟨rest, split⟩ := fits.first_datagram coupled.unpadded nonempty limit
  obtain ⟨marker, marked⟩ := Option.isSome_iff_exists.mp (fits.marked.trans enabled)
  have length := marker.encode_length (input.stream.configuration.marker_min enabled)
  have header : input.stream.configuration.header parcel.marker? =
      marker.encode input.stream.configuration.markerSize := by
    rw [marked]
    rfl
  have room := fits.room
  rw [header] at split room
  have some : taken limit (min input.stream.configuration.maximumPayload
      (marker.encode input.stream.configuration.markerSize ++ parcel.frame).length) = limit := by
    rw [List.length_append, taken, if_neg (Nat.ne_of_gt positive)]
    omega
  rw [some, List.take_append_of_le_length (by omega)] at split
  -- What arrives first is shorter than a marker, so it is data, and a whole frame of it.
  have whole : ((marker.encode input.stream.configuration.markerSize).take limit).length =
      output.layer.frameSize := by
    rw [size, List.length_take_of_le (by omega)]
  have short : SyncMarker.decode?
      ((marker.encode input.stream.configuration.markerSize).take limit)
      output.configuration.markerSize = none :=
    SyncMarker.decode?_of_short (by rw [whole, size, coupled.framing_eq]; exact small)
  have within : ((marker.encode input.stream.configuration.markerSize).take limit).length ≤
      output.configuration.maximumPayload := by
    rw [whole, size, coupled.framing_eq]
    omega
  have carries := Carries.single (List.ne_nil_of_length_pos (whole ▸ size ▸ positive)) within
  have run := OutputStream.reads_carried coupled.receiving coupled.aligned (size ▸ positive) whole
    carries coupled.receiving
    (OutputStream.received_data coupled.receiving
      (by rw [whole]; exact Nat.le_of_eq (Nat.zero_add _)) fun _ => short) (List.append_nil _)
  rw [List.nil_append, List.flatMap_singleton, split] at cutting
  obtain ⟨other, ends, read⟩ :=
    cutting.read last run (coupled.receiving.begins coupled.aligned)
  exact ⟨marker, other, written.append (.turn ends .done),
    read.output_eq.trans coupled.output_eq.symm⟩

end Coupled

theorem Joined.writes {session : Session} {input : InputStream} {frames : List Bytes} (now : Nat)
    (uniform : input.Uniform) (active : input.lifecycle.state = .active)
    (sized : ∀ frame ∈ frames, frame.length = input.layer.frameSize)
    (joined : Joined session input output inbox) :
    ∃ final, Session.Plays now session (frames.map .write)
      (List.replicate frames.length (.ok .done)) now final := by
  induction frames generalizing session input inbox with
  | nil => exact ⟨session, .done⟩
  | cons frame frames ih =>
    have ⟨exact, sized⟩ := List.forall_mem_cons.mp sized
    have fits : Parcel.Fits input.configuration input.layer.frameSize
        ⟨input.nextMarker?, frame⟩ :=
      ⟨exact, uniform.nextMarker?_isSome⟩
    obtain ⟨started, start, joined⟩ := joined.start_write frame
    obtain ⟨syncIndex, drawn⟩ := input.drawn_changes
    rw [InputStream.beginWrite_drawn active exact, drawn] at start joined
    obtain ⟨between, ends, joined⟩ :=
      joined.write_ends now (by exact active) fits.payloads_nonempty
    have counted : InputStream.Uniform
        { input with syncIndex, frameCounter := input.frameCounter + 1 } :=
      ⟨uniform.unpadded, uniform.everyFrame⟩
    obtain ⟨final, plays⟩ := ih counted active sized joined
    exact ⟨final, .turn (start ▸ ends) plays⟩

theorem Pairing.coupled (pairing : Pairing)
    (everyFrame : pairing.configuration.syncEnabled = true →
      pairing.configuration.framesPerSync = 1) :
    ∃ input output,
      Coupled pairing.session { stream := input, limiter := .unlimited, port := ⟨.host, []⟩ }
        output ∧
      input.configuration = pairing.configuration ∧ input.layer = pairing.sending.layer ∧
      input.lifecycle.state = .active := by
  obtain ⟨input, output, joined, counts, active, inStep, framing⟩ := pairing.joined
  have same := counts.configuration_eq
  have unpadded : pairing.configuration.padsFrames = false :=
    (InputConfiguration.padsFrames_eq pairing.configured).trans pairing.unpadded
  refine ⟨input, output, ?_, same, counts.layer_eq, active⟩
  exact {
    input_eq := joined.input_eq
    port_eq := rfl
    output_eq := joined.output_eq
    inbox_eq := joined.inbox_eq
    limit_eq := joined.unchunked
    isOpen := joined.isOpen
    unpadded := same ▸ unpadded
    everyFrame := same ▸ everyFrame
    framing_eq := framing.trans (congrArg _ same.symm)
    frameSize_eq := by rw [inStep.layer_eq, counts.layer_eq, pairing.frameSize_eq]
    active := inStep.active
    empty := inStep.empty
    aligned := inStep.aligned }

private def markedInput : InputRequest where
  layer := ⟨"in", .hostToDevice, 4, 1⟩
  checkedLayer := ⟨"in", .hostToDevice, 4, 1⟩
  parameters := { syncEnabled := true, maximumPayload := 64 }

private def markedOutput : OutputRequest where
  layer := ⟨"out", .deviceToHost, 4, 1⟩
  checkedLayer := ⟨"out", .deviceToHost, 4, 1⟩
  parameters := { syncEnabled := true, maximumPayload := 64 }

private theorem exists_coupled :
    ∃ (session : Session) (input : InputSide Float) (output : OutputStream),
      Coupled session input output ∧ input.limiter = .unlimited ∧
        input.stream.lifecycle.state = .active ∧ input.stream.layer.frameSize = 4 ∧
        input.stream.configuration.syncEnabled = true ∧
        input.stream.configuration.markerSize = 8 := by
  let pairing : Pairing := {
    pathLimit := 1472, shaper := ⟨false, fun _ => none⟩, host := .loopback
    sending := markedInput, receiving := markedOutput
    configuration := _, configured := rfl, payload_eq := rfl, sync_eq := rfl, marker_eq := rfl
    unpadded := rfl, unlimited := rfl, frameSize_eq := rfl, frameSize_pos := by decide
    half := _, half_added := rfl, made := _, made_added := rfl
    begun := 0, inputBatch := 1, outputBatch := 1, inputActivated := rfl, outputActivated := rfl }
  obtain ⟨input, output, coupled, configuration, layer, active⟩ := pairing.coupled fun _ => rfl
  refine ⟨_, _, _, coupled, rfl, active, ?_, ?_, ?_⟩
  · exact congrArg Layer.frameSize layer
  · exact congrArg (fun configuration => configuration.toFraming.syncEnabled) configuration
  · exact congrArg (fun configuration => configuration.toFraming.markerSize) configuration

/-- Where payloads are cut but no marker is, the frames that are written are read as they would be
otherwise, and the output stream notes the same. Without a limiter all of them are written. -/
theorem partial_sends_transparent {session : Session} {input : InputSide Float}
    {output : OutputStream} (coupled : Coupled session input output) {limit : Nat}
    (large : input.stream.configuration.syncEnabled = true → 0 < output.layer.frameSize →
      input.stream.configuration.markerSize ≤ limit) (now : Nat) (frames : List Bytes) :
    (∀ returned last final,
      Session.Plays now session (Session.batch frames)
        (List.replicate frames.length (.ok .done) ++ returned) last final →
      returned = frames.map (fun frame => .ok (.frame frame)) ∧
        ∃ other, Session.Plays now (session.setChunkLimit limit) (Session.batch frames)
            (List.replicate frames.length (.ok .done) ++ returned) last other ∧
          other.output? = final.output?) ∧
    (input.limiter = .unlimited → input.stream.lifecycle.state = .active →
      (∀ frame ∈ frames, frame.length = input.stream.layer.frameSize) →
      ∃ final, Session.Plays now session (Session.batch frames) (Session.batchReplies frames) now
        final) := by
  constructor
  · intro returned last final plays
    obtain ⟨replies, others, middle, between, split, written, _⟩ := plays.prefix_of_append
    have count := written.length_eq
    rw [List.length_map] at count
    obtain ⟨rfl, rfl⟩ := List.append_inj split (by rw [List.length_replicate, count])
    obtain ⟨final', other, whole, cut, same⟩ := coupled.plays_batch large written
    obtain ⟨replied, rfl, rfl⟩ := whole.unique plays
    rw [← replied]
    exact ⟨(List.append_cancel_left replied).symm, other, cut, same⟩
  · intro unlimited active sized
    obtain ⟨between, written⟩ := (coupled.joined unlimited).writes now coupled.toUniform active
      sized
    obtain ⟨final, _, plays, _⟩ := coupled.plays_batch large written
    exact ⟨final, plays⟩

theorem partial_sends_transparent_of_two_frames :
    ∃ (session : Session) (input : InputSide Float) (output : OutputStream) (final other : Session),
      Coupled session input output ∧ input.stream.configuration.syncEnabled = true ∧
        input.stream.configuration.markerSize = 8 ∧
        Session.Plays 0 session [.write [1, 2, 3, 4], .write [5, 6, 7, 8], .read, .read]
          [.ok .done, .ok .done, .ok (.frame [1, 2, 3, 4]), .ok (.frame [5, 6, 7, 8])] 0 final ∧
        Session.Plays 0 (session.setChunkLimit 8)
          [.write [1, 2, 3, 4], .write [5, 6, 7, 8], .read, .read]
          [.ok .done, .ok .done, .ok (.frame [1, 2, 3, 4]), .ok (.frame [5, 6, 7, 8])] 0 other ∧
        other.output? = final.output? := by
  obtain ⟨session, input, output, coupled, unlimited, active, size, enabled, marker⟩ :=
    exists_coupled
  have large : input.stream.configuration.syncEnabled = true → 0 < output.layer.frameSize →
      input.stream.configuration.markerSize ≤ 8 := fun _ _ => Nat.le_of_eq marker
  have ⟨same, written⟩ :=
    partial_sends_transparent coupled large 0 [[1, 2, 3, 4], [5, 6, 7, 8]]
  obtain ⟨final, plays⟩ := written unlimited active (by rw [size]; decide)
  obtain ⟨_, other, cut, noted⟩ := same _ 0 final plays
  exact ⟨session, input, output, final, other, coupled, enabled, marker, plays, cut, noted⟩

/-- With a limit of four bytes a marker of eight is not recognized, and the first half of it is
returned for the frame; the output stream then has noted nothing, where otherwise it had noted the
marker. -/
theorem partial_sends_hide_marker :
    ∃ (session : Session) (input : InputSide Float) (output : OutputStream) (final other : Session),
      Coupled session input output ∧ input.stream.configuration.syncEnabled = true ∧
        Session.Plays 0 session [.write [1, 2, 3, 4], .read]
          [.ok .done, .ok (.frame [1, 2, 3, 4])] 0 final ∧
        Session.Plays 0 (session.setChunkLimit 4) [.write [1, 2, 3, 4], .read]
          [.ok .done, .ok (.frame [0x5A, 0x5A, 0xA5, 0xA5])] 0 other ∧
        other.output? = session.output? := by
  obtain ⟨session, input, output, coupled, unlimited, active, size, enabled, marker⟩ :=
    exists_coupled
  have size' : output.layer.frameSize = 4 := coupled.frameSize_eq.trans size
  have sized : ∀ frame ∈ ([[1, 2, 3, 4]] : List Bytes),
      frame.length = input.stream.layer.frameSize := by
    rw [size]
    decide
  have large : input.stream.configuration.syncEnabled = true → 0 < output.layer.frameSize →
      input.stream.configuration.markerSize ≤ 8 := fun _ _ => Nat.le_of_eq marker
  obtain ⟨between, written⟩ :=
    (coupled.joined unlimited).writes 0 coupled.toUniform active sized
  obtain ⟨final, _, plays, _⟩ := coupled.plays_batch large written
  obtain ⟨sent, other, cut, same⟩ := coupled.plays_cut_marker enabled (by rw [size']; decide)
    (by rw [size', marker]; decide) written
  rw [size', marker] at cut
  exact ⟨session, input, output, final, other, coupled, enabled, plays, cut, same⟩

end FrameStream
