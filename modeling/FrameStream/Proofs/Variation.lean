import FrameStream.InputStream
import FrameStream.OutputStream

/-!
What a stream does not look at. No operation of a stream depends on its batch size or on what it has
counted so far: a stream in which these are varied does the same, and stays varied in the same way.
-/

namespace FrameStream

namespace InputStream

variable (rebatch : UInt16 → UInt16) (stream : InputStream)

def varied : InputStream := { stream with batchSize := rebatch stream.batchSize }

@[simp]
theorem varied_layer : (stream.varied rebatch).layer = stream.layer := rfl

@[simp]
theorem varied_lifecycle : (stream.varied rebatch).lifecycle = stream.lifecycle := rfl

@[simp]
theorem varied_timeout : (stream.varied rebatch).timeout = stream.timeout := rfl

@[simp]
theorem varied_nextMarker? : (stream.varied rebatch).nextMarker? = stream.nextMarker? := rfl

@[simp]
theorem varied_beginActivation (requested : UInt16) :
    (stream.varied rebatch).beginActivation requested = stream.beginActivation requested := rfl

theorem proceed_varied (later : List Bytes) :
    ((stream.varied rebatch).proceed later).value =
      (stream.proceed later).value.map (varied rebatch) id := by
  cases later with
  | nil | cons => rfl

theorem offer_varied (payload : Bytes) (sent : Nat) (later : List Bytes) :
    ((stream.varied rebatch).offer payload sent later).value =
      (stream.offer payload sent later).value.map (varied rebatch) id := by
  unfold offer
  split
  · rfl
  · exact stream.proceed_varied rebatch later

theorem beginWrite_varied (frame : Bytes) :
    ((stream.varied rebatch).beginWrite frame).value =
      (stream.beginWrite frame).value.map (varied rebatch) id := by
  unfold beginWrite
  rw [varied_layer, varied_lifecycle, varied_nextMarker?]
  split
  · rfl
  · cases stream.lifecycle.ensureActive with
    | error error => rfl
    | ok _ =>
      cases stream.nextMarker? with
      | none => exact stream.proceed_varied rebatch _
      | some marker =>
        have proceeded := proceed_varied rebatch
          { stream with syncIndex := SyncMarker.successor stream.syncIndex }
          (stream.configuration.payloads (some marker) frame)
        dsimp only
        split <;> exact proceeded

theorem granted_varied (payload : Bytes) (later : List Bytes)
    (answer : Except RateError Duration) :
    ((stream.varied rebatch).granted payload later answer).value =
      (stream.granted payload later answer).value.map (varied rebatch) id := by
  cases answer with
  | error error => rfl
  | ok wait =>
    simp only [granted]
    split
    · exact stream.offer_varied rebatch payload 0 later
    · rfl

theorem rested_varied (payload : Bytes) (later : List Bytes) (outcome : Except StreamError Unit) :
    ((stream.varied rebatch).rested payload later outcome).value =
      (stream.rested payload later outcome).value.map (varied rebatch) id := by
  cases outcome with
  | error | ok => rfl

theorem delivered_varied (payload : Bytes) (sent : Nat) (later : List Bytes)
    (outcome : Except StreamError Nat) :
    ((stream.varied rebatch).delivered payload sent later outcome).value =
      (stream.delivered payload sent later outcome).value.map (varied rebatch) id := by
  rcases outcome with error | _ | fewer
  · rfl
  · rfl
  · simp only [delivered]
    split
    · exact stream.offer_varied rebatch payload _ later
    · exact stream.offer_varied rebatch payload _ later

/-- Whatever the batch size was, an activation sets it. -/
theorem completeActivation_varied (batchSize : UInt16) (resume : Bool) :
    (stream.varied rebatch).completeActivation batchSize resume =
      stream.completeActivation batchSize resume := by
  unfold completeActivation
  rfl

end InputStream

def OutputStatistics.plus (first second : OutputStatistics) : OutputStatistics where
  gaps := first.gaps + second.gaps
  resyncs := first.resyncs + second.resyncs
  discardedPayloads := first.discardedPayloads + second.discardedPayloads
  discardedFrames := first.discardedFrames + second.discardedFrames

theorem OutputStatistics.plus_empty (statistics : OutputStatistics) :
    statistics.plus {} = statistics := rfl

theorem OutputStatistics.empty_plus (statistics : OutputStatistics) :
    OutputStatistics.plus {} statistics = statistics := by
  simp [plus]

namespace OutputStream

variable (rebatch : UInt16 → UInt16) (excess : OutputStatistics) (stream : OutputStream)

/-- The stream with another batch size, that has counted more. -/
def varied : OutputStream :=
  { stream with
    batchSize := rebatch stream.batchSize
    statistics := excess.plus stream.statistics }

@[simp]
theorem varied_layer : (stream.varied rebatch excess).layer = stream.layer := rfl

@[simp]
theorem varied_configuration :
    (stream.varied rebatch excess).configuration = stream.configuration := rfl

@[simp]
theorem varied_lifecycle : (stream.varied rebatch excess).lifecycle = stream.lifecycle := rfl

@[simp]
theorem varied_lastIndex : (stream.varied rebatch excess).lastIndex = stream.lastIndex := rfl

@[simp]
theorem varied_isHunting : (stream.varied rebatch excess).isHunting = stream.isHunting := rfl

@[simp]
theorem varied_beginActivation (requested : UInt16) :
    (stream.varied rebatch excess).beginActivation requested = stream.beginActivation requested :=
  rfl

theorem settle_varied (filled : Bytes) (started : Bool) :
    ((stream.varied rebatch excess).settle filled started).value =
      (stream.settle filled started).value.map (varied rebatch excess) id := by
  unfold settle
  rw [varied_layer]
  split <;> rfl

theorem beginFrame_varied (aligned : Bool) :
    ((stream.varied rebatch excess).beginFrame aligned).value =
      (stream.beginFrame aligned).value.map (varied rebatch excess) id :=
  settle_varied rebatch excess
    { stream with leftover := stream.leftover.drop stream.layer.frameSize } _ _

theorem beginAlignment_varied :
    (stream.varied rebatch excess).beginAlignment =
      stream.beginAlignment.map fun started =>
        ⟨started.value.varied rebatch excess, started.events⟩ := by
  unfold beginAlignment
  rw [varied_configuration, varied_lifecycle]
  split
  · cases stream.lifecycle.ensureActive with
    | error | ok => rfl
  · rfl

theorem beginRead_varied (size : Nat) :
    ((stream.varied rebatch excess).beginRead size).value =
      (stream.beginRead size).value.map (varied rebatch excess) id := by
  unfold beginRead
  rw [varied_layer, varied_lifecycle, varied_isHunting]
  split
  · rfl
  · cases stream.lifecycle.ensureActive with
    | error error => rfl
    | ok _ =>
      dsimp only
      split
      · rw [beginAlignment_varied]
        cases stream.beginAlignment with
        | error | ok => rfl
      · exact stream.beginFrame_varied rebatch excess false

theorem align_varied (payload : Bytes) :
    ((stream.varied rebatch excess).align payload).value =
      (stream.align payload).value.map (varied rebatch excess) id := by
  unfold align
  rw [varied_configuration]
  cases SyncMarker.decode? payload stream.configuration.markerSize with
  | none | some => rfl

theorem observe_varied (index : UInt32) :
    ((stream.varied rebatch excess).observe index).value =
      (stream.observe index).value.varied rebatch excess := by
  unfold observe
  rw [varied_lastIndex]
  dsimp only
  split <;> rfl

theorem place_varied (filled data : Bytes) (payload : Nat) :
    ((stream.varied rebatch excess).place filled data payload).value =
      (stream.place filled data payload).value.map (varied rebatch excess) id :=
  settle_varied rebatch excess
    { stream with
      leftover := stream.leftover ++ data.drop (stream.layer.frameSize - filled.length) } _ _

theorem receivePayload_varied (filled : Bytes) (started : Bool) (payload : Bytes) :
    ((stream.varied rebatch excess).receivePayload filled started payload).value =
      (stream.receivePayload filled started payload).value.map (varied rebatch excess) id := by
  unfold receivePayload
  rw [varied_configuration]
  generalize (if stream.configuration.syncEnabled && !started then
    SyncMarker.decode? payload stream.configuration.markerSize else none) = marker?
  cases marker? with
  | none => exact stream.place_varied rebatch excess filled payload _
  | some marker =>
    change (OutputStream.place _ filled _ payload.length).value = _
    rw [observe_varied]
    exact place_varied rebatch excess _ filled _ payload.length

theorem loseFrame_varied (error : StreamError) (filled : Bytes) :
    ((stream.varied rebatch excess).loseFrame error filled).value =
      (stream.loseFrame error filled).value.varied rebatch excess := by
  unfold loseFrame
  split <;> rfl

theorem received_varied (point : ReadPoint) (outcome : Except StreamError Bytes) :
    ((stream.varied rebatch excess).received point outcome).value =
      (stream.received point outcome).value.map (varied rebatch excess) id := by
  cases point with
  | hunting =>
    cases outcome with
    | error error => rfl
    | ok payload =>
      simp only [received, align_varied]
      generalize stream.align payload = found
      obtain ⟨⟨aligned, _ | index⟩, events⟩ := found
      · rfl
      · exact aligned.beginFrame_varied rebatch excess true
  | assembling filled started =>
    cases outcome with
    | error error =>
      simp only [received, loseFrame_varied]
      rfl
    | ok payload => exact stream.receivePayload_varied rebatch excess filled started payload

theorem completeActivation_varied (batchSize : UInt16) (resume : Bool) :
    (stream.varied rebatch excess).completeActivation batchSize resume =
      (stream.completeActivation batchSize resume).map fun activated =>
        ⟨activated.value.varied id excess, activated.events⟩ := by
  unfold completeActivation
  change (stream.lifecycle.activate >>= _) = _
  cases stream.lifecycle.activate with
  | error => rfl
  | ok =>
    cases resume with
    | false | true => rfl

end OutputStream

end FrameStream
