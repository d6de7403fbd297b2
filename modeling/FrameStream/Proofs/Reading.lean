import FrameStream.OutputStream
import FrameStream.Proofs.MarkerCodec

/-!
Reads as a run over the outcomes of receives. Every read is begun as soon as the one before it is
over, so a run is decided by the outcomes alone. While a stream holds nothing beyond the frame at
hand, each outcome has one of a few exact effects.
-/

namespace FrameStream

abbrev Receipt := Except StreamError Bytes

/-- The part of a frame that an unfinished read holds. -/
def ReadPoint.held : ReadPoint → Bytes
  | .hunting => []
  | .assembling filled _ => filled

/-- Whether the next payload is looked at for a marker. -/
def ReadPoint.looks : ReadPoint → Bool
  | .hunting => true
  | .assembling _ started => !started

theorem ReadPoint.eq_of_not_looks {point : ReadPoint} (blind : ¬ point.looks = true) :
    ∃ filled, point = .assembling filled true := by
  cases point with
  | hunting => exact absurd rfl blind
  | assembling filled started =>
    cases started with
    | false => exact absurd rfl blind
    | true => exact ⟨filled, rfl⟩

namespace OutputStream

abbrev ReadState := OutputStream × Progress ReadPoint (Except StreamError Bytes)

/-- What reads make of a list of receipts, with the results of those that are over. A datagram is
cut to the buffer of the stream. -/
inductive Reads :
    ReadState → List Receipt → List (Except StreamError Bytes) → ReadState → Prop where
  | done : Reads state [] [] state
  | receive :
      Reads (stream.received point
        (receipt.map (List.take stream.configuration.maximumPayload))).value receipts results last →
      Reads (stream, .waiting point) (receipt :: receipts) results last
  | again :
      Reads (stream.beginRead stream.layer.frameSize).value receipts results last →
      Reads (stream, .finished result) receipts (result :: results) last

theorem Reads.append (first : Reads start receipts results middle)
    (second : Reads middle more others last) :
    Reads start (receipts ++ more) (results ++ others) last := by
  induction first with
  | done => exact second
  | receive _ ih => exact .receive (ih second)
  | again _ ih => exact .again (ih second)

theorem Reads.unique (left : Reads start receipts results (stream, .waiting point))
    (right : Reads start receipts results' (stream', .waiting point')) :
    results = results' ∧ stream = stream' ∧ point = point' := by
  generalize ending : (stream, Progress.waiting point) = last at left
  induction left generalizing results' with
  | done =>
    subst ending
    cases right
    exact ⟨rfl, rfl, rfl⟩
  | receive _ ih =>
    cases right with
    | receive right => exact ih right ending
  | again _ ih =>
    cases right with
    | again right =>
      obtain ⟨same, rest⟩ := ih right ending
      exact ⟨congrArg _ same, rest⟩

/-- Where the next read of a stream starts that holds nothing. -/
def freshPoint (stream : OutputStream) : ReadPoint :=
  if stream.isHunting then .hunting else .assembling [] false

@[simp]
theorem held_freshPoint (stream : OutputStream) : stream.freshPoint.held = [] := by
  unfold freshPoint
  split <;> rfl

@[simp]
theorem looks_freshPoint (stream : OutputStream) : stream.freshPoint.looks = true := by
  unfold freshPoint
  split <;> rfl

/-- An active stream with nothing left over. -/
structure Receiving (configuration : OutputConfiguration) (layer : Layer) (stream : OutputStream) :
    Prop where
  configuration_eq : stream.configuration = configuration
  layer_eq : stream.layer = layer
  active : stream.lifecycle.state = .active
  empty : stream.leftover = []
  hunts : stream.isHunting = true → configuration.syncEnabled = true

variable {configuration : OutputConfiguration} {layer : Layer} {stream : OutputStream}

/-- An activation without `resume` leaves nothing of what was received before. -/
theorem completeActivation_receiving {batchSize : UInt16}
    (activation : stream.completeActivation batchSize false = .ok activated) :
    Receiving stream.configuration stream.layer activated.value ∧
      activated.value.isHunting = false := by
  unfold completeActivation Lifecycle.activate at activation
  by_cases active : stream.lifecycle.state = .active
  · rw [if_pos active] at activation
    cases activation
  · rw [if_neg active] at activation
    cases activation
    exact ⟨⟨rfl, rfl, rfl, rfl, fun hunting => nomatch hunting⟩, rfl⟩

theorem Receiving.observe (receiving : Receiving configuration layer stream) (index : UInt32) :
    Receiving configuration layer (stream.observe index).value := by
  unfold OutputStream.observe
  dsimp only
  split <;> exact { receiving with }

theorem beginRead_fresh (receiving : Receiving configuration layer stream)
    (positive : 0 < layer.frameSize) :
    (stream.beginRead stream.layer.frameSize).value = (stream, .waiting stream.freshPoint) := by
  have ready := (Lifecycle.ensureActive_eq_ok _).mpr receiving.active
  have unchanged : { stream with leftover := [] } = stream := by rw [← receiving.empty]
  unfold beginRead freshPoint
  rw [if_neg (fun other => other rfl), ready]
  by_cases hunting : stream.isHunting = true
  · have enabled := receiving.hunts hunting
    rw [← receiving.configuration_eq] at enabled
    simp only [if_pos hunting, beginAlignment, if_pos enabled, ready, unchanged]
  · have short : 0 < stream.layer.frameSize := receiving.layer_eq ▸ positive
    simp only [if_neg hunting, beginFrame, receiving.empty, List.take_nil, List.drop_nil, unchanged,
      settle, List.length_nil, if_pos short]
    rfl

theorem Reads.restart (receiving : Receiving configuration layer stream)
    (positive : 0 < layer.frameSize) (result : Except StreamError Bytes) :
    Reads (stream, .finished result) [] [result] (stream, .waiting stream.freshPoint) := by
  refine .again ?_
  rw [beginRead_fresh receiving positive]
  exact .done

theorem settle_stream (stream : OutputStream) (filled : Bytes) (started : Bool) :
    (stream.settle filled started).value.1 = stream := by
  unfold settle
  split <;> rfl

theorem align_lifecycle (stream : OutputStream) (payload : Bytes) :
    (stream.align payload).value.1.lifecycle = stream.lifecycle := by
  unfold align
  split <;> rfl

/-- Receiving changes what a stream holds and what it has counted, and nothing else. -/
theorem received_changes (stream : OutputStream) (point : ReadPoint) (receipt : Receipt) :
    ∃ leftover lastIndex isHunting statistics, (stream.received point receipt).value.1 =
      { stream with leftover, lastIndex, isHunting, statistics } := by
  cases point with
  | hunting =>
    cases receipt with
    | error error => exact ⟨_, _, _, _, rfl⟩
    | ok payload =>
      cases decoded : SyncMarker.decode? payload stream.configuration.markerSize with
      | none =>
        simp only [received, align, decoded]
        exact ⟨_, _, _, _, rfl⟩
      | some marker =>
        simp only [received, align, decoded, Option.isSome_some, if_true, beginFrame,
          settle_stream]
        exact ⟨_, _, _, _, rfl⟩
  | assembling filled started =>
    cases receipt with
    | error error =>
      simp only [received, loseFrame]
      split <;> exact ⟨_, _, _, _, rfl⟩
    | ok payload =>
      simp only [received, receivePayload]
      split
      · rw [place, settle_stream]
        exact ⟨_, _, _, _, rfl⟩
      · simp only [place, settle_stream, observe]
        split <;> exact ⟨_, _, _, _, rfl⟩

/-- Receiving never ends or starts an activation. -/
theorem received_lifecycle (stream : OutputStream) (point : ReadPoint) (receipt : Receipt) :
    (stream.received point receipt).value.1.lifecycle = stream.lifecycle := by
  obtain ⟨_, _, _, _, changed⟩ := stream.received_changes point receipt
  rw [changed]

theorem received_error (stream : OutputStream) (point : ReadPoint) (error : StreamError) :
    (stream.received point (.error error)).value.2 = .finished (.error error) := by
  cases point <;> rfl

section Receipts

variable {filled payload : Bytes} {started : Bool} {marker : SyncMarker}
  (receiving : Receiving configuration layer stream)
include receiving

theorem place_within (room : filled.length + payload.length ≤ layer.frameSize) (length : Nat) :
    (stream.place filled payload length).value =
      (stream.settle (filled ++ payload) true).value := by
  have within : payload.length ≤ stream.layer.frameSize - filled.length := by
    rw [receiving.layer_eq]
    omega
  have unchanged : { stream with leftover := [] } = stream := by rw [← receiving.empty]
  simp only [place, List.take_of_length_le within, List.drop_of_length_le within, receiving.empty,
    List.append_nil, unchanged]

/-- A payload that is not looked at for a marker, or has none, is data. -/
theorem received_data (room : filled.length + payload.length ≤ layer.frameSize)
    (plain : (configuration.syncEnabled && !started) = true →
      SyncMarker.decode? payload configuration.markerSize = none) :
    (stream.received (.assembling filled started) (.ok payload)).value =
      (stream.settle (filled ++ payload) true).value := by
  have unmarked : (if stream.configuration.syncEnabled && !started then
      SyncMarker.decode? payload stream.configuration.markerSize else none) = none := by
    rw [receiving.configuration_eq]
    split
    · exact plain ‹_›
    · rfl
  simp only [received, receivePayload, unmarked]
  exact place_within receiving room payload.length

/-- Once a frame has started, every payload is data. -/
theorem received_started (room : filled.length + payload.length ≤ layer.frameSize) :
    (stream.received (.assembling filled true) (.ok payload)).value =
      (stream.settle (filled ++ payload) true).value :=
  received_data receiving room fun looked => by simp at looked

theorem received_marker (enabled : configuration.syncEnabled = true)
    (decoded : SyncMarker.decode? payload configuration.markerSize = some marker)
    (room : filled.length + (payload.drop configuration.markerSize).length ≤ layer.frameSize) :
    (stream.received (.assembling filled false) (.ok payload)).value =
      ((stream.observe marker.index).value.settle
        (filled ++ payload.drop configuration.markerSize) true).value := by
  have looked : (if stream.configuration.syncEnabled && !false then
      SyncMarker.decode? payload stream.configuration.markerSize else none) = some marker := by
    rw [receiving.configuration_eq, enabled]
    exact decoded
  simp only [received, receivePayload, looked]
  rw [receiving.configuration_eq]
  exact place_within (receiving.observe marker.index) room payload.length

theorem received_hunted
    (decoded : SyncMarker.decode? payload configuration.markerSize = some marker)
    (room : (payload.drop configuration.markerSize).length ≤ layer.frameSize) :
    ∃ aligned, Receiving configuration layer aligned ∧
      (stream.received .hunting (.ok payload)).value =
        (aligned.settle (payload.drop configuration.markerSize) true).value := by
  obtain ⟨rfl, rfl, active, empty, _⟩ := receiving
  refine ⟨{ (stream.align payload).value.1 with leftover := [] }, ?_, ?_⟩
  · simp only [align, decoded]
    exact ⟨rfl, rfl, active, rfl, fun hunting => nomatch hunting⟩
  · simp only [received, align, decoded, Option.isSome_some, if_true, beginFrame, empty,
      List.nil_append, List.take_of_length_le room, List.drop_of_length_le room, Bool.true_or]

theorem received_passed (plain : SyncMarker.decode? payload configuration.markerSize = none) :
    ∃ passed, Receiving configuration layer passed ∧
      (stream.received .hunting (.ok payload)).value = (passed, .waiting .hunting) := by
  obtain ⟨rfl, rfl, active, empty, hunts⟩ := receiving
  refine ⟨(stream.align payload).value.1, ?_, ?_⟩
  · simp only [align, plain]
    exact ⟨rfl, rfl, active, empty, hunts⟩
  · simp [received, align, plain]

/-- A failure ends the read, and leaves nothing behind for the next. -/
theorem received_failure (point : ReadPoint) (error : StreamError)
    (enabled : configuration.syncEnabled = true) :
    ∃ next, Receiving configuration layer next ∧
      (stream.received point (.error error)).value = (next, .finished (.error error)) := by
  cases point with
  | hunting => exact ⟨stream, receiving, rfl⟩
  | assembling filled started =>
    refine ⟨(stream.loseFrame error filled).value, ?_, rfl⟩
    unfold loseFrame
    split
    · exact { receiving with hunts := fun _ => enabled }
    · exact receiving

theorem settle_of_lt (started : Bool) (short : filled.length < layer.frameSize) :
    (stream.settle filled started).value = (stream, .waiting (.assembling filled started)) := by
  rw [settle, receiving.layer_eq, if_pos short]

theorem settle_of_eq (started : Bool) (whole : filled.length = layer.frameSize) :
    (stream.settle filled started).value = (stream, .finished (.ok filled)) := by
  rw [settle, receiving.layer_eq, if_neg (by omega)]

/-- A frame waits for more data until it is whole; then the next read starts from nothing. -/
theorem reads_settle (positive : 0 < layer.frameSize) (within : filled.length ≤ layer.frameSize) :
    ∃ results point, Reads (stream.settle filled true).value [] results (stream, .waiting point) ∧
      (filled.length < layer.frameSize ∧ results = [] ∧ point = .assembling filled true ∨
        filled.length = layer.frameSize ∧ results = [.ok filled] ∧ point = stream.freshPoint) := by
  rcases Nat.lt_or_eq_of_le within with short | whole
  · rw [settle_of_lt receiving true short]
    exact ⟨_, _, .done, .inl ⟨short, rfl, rfl⟩⟩
  · rw [settle_of_eq receiving true whole]
    exact ⟨_, _, .restart receiving positive _, .inr ⟨whole, rfl, rfl⟩⟩

end Receipts

end OutputStream

end FrameStream
