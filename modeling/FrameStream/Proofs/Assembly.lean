import FrameStream.Proofs.Reading

namespace FrameStream

namespace OutputStream

def leaving (stream : OutputStream) (rest : Bytes) : OutputStream :=
  { stream with leftover := rest }

@[simp]
theorem leaving_leftover (stream : OutputStream) (rest : Bytes) :
    (stream.leaving rest).leftover = rest := rfl

@[simp]
theorem leaving_layer (stream : OutputStream) (rest : Bytes) :
    (stream.leaving rest).layer = stream.layer := rfl

@[simp]
theorem leaving_configuration (stream : OutputStream) (rest : Bytes) :
    (stream.leaving rest).configuration = stream.configuration := rfl

@[simp]
theorem leaving_isHunting (stream : OutputStream) (rest : Bytes) :
    (stream.leaving rest).isHunting = stream.isHunting := rfl

theorem leaving_of_empty {stream : OutputStream} (empty : stream.leftover = []) :
    stream.leaving [] = stream := by
  rw [leaving, ← empty]

section Observe

variable (stream : OutputStream) (index : UInt32)

@[simp]
theorem observe_leftover : (stream.observe index).value.leftover = stream.leftover := by
  unfold observe
  dsimp only
  split <;> rfl

@[simp]
theorem observe_layer : (stream.observe index).value.layer = stream.layer := by
  unfold observe
  dsimp only
  split <;> rfl

@[simp]
theorem observe_configuration :
    (stream.observe index).value.configuration = stream.configuration := by
  unfold observe
  dsimp only
  split <;> rfl

@[simp]
theorem observe_isHunting : (stream.observe index).value.isHunting = stream.isHunting := by
  unfold observe
  dsimp only
  split <;> rfl

@[simp]
theorem observe_lifecycle : (stream.observe index).value.lifecycle = stream.lifecycle := by
  unfold observe
  dsimp only
  split <;> rfl

@[simp]
theorem observe_lastIndex : (stream.observe index).value.lastIndex = index := by
  unfold observe
  dsimp only
  split <;> rfl

theorem observe_statistics :
    (stream.observe index).value.statistics =
      { stream.statistics with
        gaps := stream.statistics.gaps +
          if index = SyncMarker.successor stream.lastIndex then 0 else 1 } := by
  unfold observe
  dsimp only
  split <;> rfl

end Observe

@[simp]
theorem loseFrame_leftover (stream : OutputStream) (error : StreamError) (filled : Bytes) :
    (stream.loseFrame error filled).value.leftover = stream.leftover := by
  unfold loseFrame
  split <;> rfl

@[simp]
theorem loseFrame_layer (stream : OutputStream) (error : StreamError) (filled : Bytes) :
    (stream.loseFrame error filled).value.layer = stream.layer := by
  unfold loseFrame
  split <;> rfl

/-- What a read comes to with these bytes at hand. A frame that has any bytes has started. -/
inductive Assembles (stream : OutputStream) (bytes : Bytes) : ReadState → Prop where
  | short : bytes.length < stream.layer.frameSize → (started = false → bytes = []) →
      Assembles stream bytes (stream.leaving [], .waiting (.assembling bytes started))
  | whole : stream.layer.frameSize ≤ bytes.length →
      Assembles stream bytes (stream.leaving (bytes.drop stream.layer.frameSize),
        .finished (.ok (bytes.take stream.layer.frameSize)))

variable {stream : OutputStream} {filled payload : Bytes} {started : Bool}

/-- What a read comes to with these bytes at hand, and whether the frame has then started. -/
inductive Gathers (stream : OutputStream) (bytes : Bytes) (started : Bool) : ReadState → Prop where
  | short : bytes.length < stream.layer.frameSize →
      Gathers stream bytes started (stream.leaving [], .waiting (.assembling bytes started))
  | whole : stream.layer.frameSize ≤ bytes.length →
      Gathers stream bytes started (stream.leaving (bytes.drop stream.layer.frameSize),
        .finished (.ok (bytes.take stream.layer.frameSize)))

theorem Gathers.assembles {state : ReadState} {bytes : Bytes}
    (gathers : Gathers stream bytes started state)
    (begun : bytes.length < stream.layer.frameSize → started = false → bytes = []) :
    Assembles stream bytes state := by
  cases gathers with
  | short short => exact .short short (begun short)
  | whole enough => exact .whole enough

theorem settle_gathers (stream : OutputStream) (bytes : Bytes) (started : Bool) :
    Gathers stream bytes started
      ((stream.leaving (bytes.drop stream.layer.frameSize)).settle
        (bytes.take stream.layer.frameSize) started).value := by
  unfold settle
  by_cases enough : stream.layer.frameSize ≤ bytes.length
  · rw [if_neg (by rw [leaving_layer, List.length_take]; omega)]
    exact .whole enough
  · have short := Nat.not_le.mp enough
    have most := Nat.le_of_lt short
    rw [List.take_of_length_le most, List.drop_of_length_le most, leaving_layer, if_pos short]
    exact .short short

theorem beginFrame_assembles (stream : OutputStream) (aligned : Bool) :
    Assembles stream stream.leftover (stream.beginFrame aligned).value := by
  refine (stream.settle_gathers _ _).assembles ?_
  intro short unstarted
  have nothing := (Bool.or_eq_false_iff.mp unstarted).2
  rw [List.take_of_length_le (Nat.le_of_lt short)] at nothing
  simpa using nothing

/-- The data of a payload goes on the frame so far. -/
theorem place_gathers (stream : OutputStream) (empty : stream.leftover = [])
    (room : filled.length < stream.layer.frameSize) (data : Bytes) (length : Nat) :
    Gathers stream (filled ++ data) true (stream.place filled data length).value := by
  have settled := settle_gathers stream (filled ++ data) true
  have most := Nat.le_of_lt room
  rw [List.take_append, List.take_of_length_le most, List.drop_append,
    List.drop_of_length_le most, List.nil_append] at settled
  rw [place, empty]
  exact settled

theorem place_assembles (stream : OutputStream) (empty : stream.leftover = [])
    (room : filled.length < stream.layer.frameSize) (data : Bytes) (length : Nat) :
    Assembles stream (filled ++ data) (stream.place filled data length).value :=
  (stream.place_gathers empty room data length).assembles nofun

/-- What a payload adds to a frame: all of it, or, if it opens the frame with a marker, what is
after the marker. -/
theorem received_assembles (empty : stream.leftover = [])
    (room : filled.length < stream.layer.frameSize) (begun : started = false → filled = [])
    (payload : Bytes) :
    Assembles stream (filled ++ payload)
        (stream.received (.assembling filled started) (.ok payload)).value ∨
      ∃ marker, stream.configuration.syncEnabled = true ∧ filled = [] ∧
        SyncMarker.decode? payload stream.configuration.markerSize = some marker ∧
        Assembles (stream.observe marker.index).value
          (payload.drop stream.configuration.markerSize)
          (stream.received (.assembling filled started) (.ok payload)).value := by
  simp only [received, receivePayload]
  split
  · exact .inl (stream.place_assembles empty room payload payload.length)
  · rename_i marker found
    split at found
    · rename_i looked
      rw [Bool.and_eq_true, Bool.not_eq_true'] at looked
      have nothing := begun looked.2
      subst nothing
      have placed := place_assembles (stream.observe marker.index).value
        ((stream.observe_leftover marker.index).trans empty)
        ((stream.observe_layer marker.index).symm ▸ room)
        (payload.drop stream.configuration.markerSize) payload.length
      exact .inr ⟨marker, looked.1, rfl, found, placed⟩
    · cases found

/-- What an alignment makes of a payload: one without a marker only counts as discarded. -/
theorem align_cases (stream : OutputStream) (payload : Bytes) :
    SyncMarker.decode? payload stream.configuration.markerSize = none ∧
        (stream.align payload).value =
          ({ stream with
            statistics.discardedPayloads := stream.statistics.discardedPayloads + 1 }, none) ∨
      ∃ marker, SyncMarker.decode? payload stream.configuration.markerSize = some marker ∧
        (stream.align payload).value =
          ({ stream with
            lastIndex := marker.index
            isHunting := false
            statistics.resyncs := stream.statistics.resyncs + 1
            leftover := stream.leftover ++ payload.drop stream.configuration.markerSize },
            some marker.index) := by
  unfold align
  cases SyncMarker.decode? payload stream.configuration.markerSize with
  | none => exact .inl ⟨rfl, rfl⟩
  | some marker => exact .inr ⟨marker, rfl, rfl⟩

/-- A hunt goes on past a payload without a marker; with one the frame starts after it. -/
theorem received_hunting (empty : stream.leftover = []) (payload : Bytes) :
    SyncMarker.decode? payload stream.configuration.markerSize = none ∧
        (stream.received .hunting (.ok payload)).value =
          ({ stream with
            statistics.discardedPayloads := stream.statistics.discardedPayloads + 1 },
            .waiting .hunting) ∨
      ∃ marker, SyncMarker.decode? payload stream.configuration.markerSize = some marker ∧
        Assembles
          { stream with
            lastIndex := marker.index
            isHunting := false
            statistics.resyncs := stream.statistics.resyncs + 1
            leftover := payload.drop stream.configuration.markerSize }
          (payload.drop stream.configuration.markerSize)
          (stream.received .hunting (.ok payload)).value := by
  rcases stream.align_cases payload with ⟨decoded, passed⟩ | ⟨marker, decoded, found⟩
  · refine .inl ⟨decoded, ?_⟩
    simp [received, passed]
  · refine .inr ⟨marker, decoded, ?_⟩
    rw [empty, List.nil_append] at found
    simp only [received, found, Option.isSome_some, if_true]
    exact beginFrame_assembles _ true

end OutputStream

end FrameStream
