import FrameStream.Proofs.Transit

namespace FrameStream

/-- The receipts of some frames, and which of the frames were delivered whole. -/
inductive Delivery {configuration : OutputConfiguration} {frameSize : Nat} :
    List (MarkedFrame configuration frameSize) → List Receipt →
      List (MarkedFrame configuration frameSize) → Prop where
  | done : Delivery [] [] []
  /-- A receive fails between frames. -/
  | pause : Delivery frames trace whole → Delivery frames (.error error :: trace) whole
  | whole : Delivery frames trace whole →
      Delivery (frame :: frames) (frame.payloads.map .ok ++ trace) (frame :: whole)
  | lost : Delivery frames trace whole → Delivery (frame :: frames) trace whole
  /-- Some payloads are missing; receives may fail in between, and one fails at the end. -/
  | part : (arrivals receipts).Sublist frame.payloads → arrivals receipts ≠ frame.payloads →
      Delivery frames trace whole →
      Delivery (frame :: frames) (receipts ++ .error error :: trace) whole

namespace OutputStream

variable {configuration : OutputConfiguration} {layer : Layer} {stream : OutputStream}

/-- A frame of which a part is missing is not returned. -/
theorem reads_part (receiving : Receiving configuration layer stream)
    (positive : 0 < layer.frameSize) (enabled : configuration.syncEnabled = true)
    (frame : MarkedFrame configuration layer.frameSize) (solid : frame.Solid)
    (arriving : (arrivals receipts).Sublist frame.payloads)
    (broken : arrivals receipts ≠ frame.payloads) :
    ∃ results next after, Receiving configuration layer next ∧
      Reads (stream, .waiting stream.freshPoint) receipts results (next, .waiting after) ∧
      results.filterMap Except.toOption = [] := by
  cases arrived : arrivals receipts with
  | nil =>
    obtain ⟨next, receiving, pauses⟩ := reads_pauses receiving positive enabled arrived
    exact ⟨receipts, next, _, receiving, pauses, arrived⟩
  | cons payload rest =>
    obtain ⟨before, after, rfl, silent, rfl⟩ := arrivals_eq_cons arrived
    rw [arrived] at arriving broken
    obtain ⟨idle, receiving, pauses⟩ := reads_pauses receiving positive enabled silent
    obtain ⟨results, next, point, receiving, run, returned⟩ := reads_arriving receiving positive
      enabled frame idle.freshPoint (held_freshPoint idle) (looks_freshPoint idle) arriving
    refine ⟨_, next, point, receiving, pauses.append run, ?_⟩
    rw [List.filterMap_append, List.append_eq_nil_iff]
    refine ⟨silent, List.filterMap_eq_nil_iff.mpr ?_⟩
    intro result member
    cases result with
    | error error => rfl
    | ok bytes => exact absurd ((returned bytes member).2 solid) broken

/-- Between frames a stream is always ready for the next, whatever was lost before. -/
theorem reads_delivery {frames : List (MarkedFrame configuration layer.frameSize)}
    (delivery : Delivery frames trace whole) (receiving : Receiving configuration layer stream)
    (positive : 0 < layer.frameSize) (enabled : configuration.syncEnabled = true)
    (solid : ∀ frame ∈ frames, frame.Solid) :
    ∃ results next, Receiving configuration layer next ∧
      Reads (stream, .waiting stream.freshPoint) trace results (next, .waiting next.freshPoint) ∧
      results.filterMap Except.toOption = whole.map MarkedFrame.data := by
  induction delivery generalizing stream with
  | done => exact ⟨[], stream, receiving, .done, rfl⟩
  | @pause _ _ _ error _ ih =>
    obtain ⟨next, receiving, first⟩ :=
      reads_failure receiving positive enabled stream.freshPoint error
    obtain ⟨results, last, receiving, rest, returned⟩ := ih receiving solid
    exact ⟨_, last, receiving, first.append rest, returned⟩
  | @whole _ _ _ frame _ ih =>
    have ⟨here, solid⟩ := List.forall_mem_cons.mp solid
    obtain ⟨next, receiving, first⟩ := reads_whole receiving positive enabled frame here
    obtain ⟨results, last, receiving, rest, returned⟩ := ih receiving solid
    exact ⟨_, last, receiving, first.append rest, congrArg (frame.data :: ·) returned⟩
  | lost _ ih => exact ih receiving (List.forall_mem_cons.mp solid).2
  | @part receipts _ _ _ frame error arriving broken _ ih =>
    have ⟨here, solid⟩ := List.forall_mem_cons.mp solid
    obtain ⟨some, middle, point, receiving, first, nothing⟩ :=
      reads_part receiving positive enabled frame here arriving broken
    obtain ⟨next, receiving, failed⟩ := reads_failure receiving positive enabled point error
    obtain ⟨results, last, receiving, rest, returned⟩ := ih receiving solid
    refine ⟨_, last, receiving, first.append (failed.append rest), ?_⟩
    rw [List.filterMap_append, nothing]
    exact returned

/-- After an activation without `resume`, reads return exactly the frames that are delivered whole,
in order, whatever else is lost. -/
theorem reads_return_whole_frames {activated : Logged OutputStream} {batchSize : UInt16}
    {frames whole : List (MarkedFrame stream.configuration stream.layer.frameSize)}
    (enabled : stream.configuration.syncEnabled = true) (positive : 0 < stream.layer.frameSize)
    (activation : stream.completeActivation batchSize false = .ok activated)
    (solid : ∀ frame ∈ frames, frame.Solid) (delivery : Delivery frames trace whole) :
    ∃ results last point,
      Reads (activated.value.beginRead stream.layer.frameSize).value trace results
        (last, .waiting point) ∧
      results.filterMap Except.toOption = whole.map MarkedFrame.data ∧
      ∀ results' last' point',
        Reads (activated.value.beginRead stream.layer.frameSize).value trace results'
          (last', .waiting point') → results' = results := by
  have ⟨receiving, _⟩ := completeActivation_receiving activation
  have start := beginRead_fresh receiving positive
  rw [receiving.layer_eq] at start
  obtain ⟨results, last, _, run, returned⟩ :=
    reads_delivery delivery receiving positive enabled solid
  rw [← start] at run
  exact ⟨results, last, _, run, returned, fun _ _ _ other => (other.unique run).1⟩

theorem reads_return_frame_after_loss :
    ∃ (stream : OutputStream) (activated : Logged OutputStream)
      (results : List (Except StreamError Bytes)) (last : OutputStream) (point : ReadPoint),
      stream.completeActivation 1 false = .ok activated ∧
        Reads (activated.value.beginRead 4).value
          [.ok (SyncMarker.encode ⟨0⟩ 8 ++ [1, 2]), .error (.timeout "receive" .zero),
            .ok (SyncMarker.encode ⟨1⟩ 8 ++ [5, 6]), .ok [7, 8]]
          results (last, .waiting point) ∧
        results.filterMap Except.toOption = [[5, 6, 7, 8]] := by
  let configuration : OutputConfiguration :=
    { maximumPayload := 16, syncEnabled := true, markerSize := 8, buffersThreshold := 0,
      payload_pos := by decide, payload_le := by decide, marker_min := by decide,
      marker_lt := by decide }
  let stream : OutputStream :=
    { layer := ⟨"edge", .deviceToHost, 4, 1⟩, configuration, lifecycle := { name := "edge" },
      timeout := .zero, batchSize := 1 }
  let broken : MarkedFrame configuration 4 :=
    .numbered configuration rfl 0 [1, 2] [[3, 4]] (by decide)
  let intact : MarkedFrame configuration 4 :=
    .numbered configuration rfl 1 [5, 6] [[7, 8]] (by decide)
  have first : (arrivals [.ok (SyncMarker.encode ⟨0⟩ 8 ++ [1, 2])]).Sublist broken.payloads :=
    List.Sublist.cons_cons _ (List.nil_sublist _)
  have delivery : Delivery [broken, intact]
      [.ok (SyncMarker.encode ⟨0⟩ 8 ++ [1, 2]), .error (.timeout "receive" .zero),
        .ok (SyncMarker.encode ⟨1⟩ 8 ++ [5, 6]), .ok [7, 8]] [intact] :=
    .part first (by decide) (.whole .done)
  have solid : ∀ frame ∈ [broken, intact], frame.Solid :=
    List.forall_mem_cons.mpr
      ⟨⟨by decide, by decide⟩, List.forall_mem_singleton.mpr ⟨by decide, by decide⟩⟩
  obtain ⟨activated, activation⟩ : ∃ activated, stream.completeActivation 1 false = .ok activated :=
    ⟨_, rfl⟩
  obtain ⟨results, last, point, run, returned, _⟩ :=
    reads_return_whole_frames rfl (by decide) activation solid delivery
  exact ⟨stream, activated, results, last, point, activation, run, returned⟩

end OutputStream

end FrameStream
