import FrameStream.Proofs.Transit

/-!
Which frames reach the application when anything may be lost. A marker is only looked for at the
start of a frame, and only a failed receive brings a stream back to one. So as long as no frame
begins to arrive while the stream holds a part of another, each frame returned is one that was sent.
-/

namespace FrameStream

/-- What arrives of a frame, from the first payload of it that does. -/
structure Passage (configuration : OutputConfiguration) (frameSize : Nat) where
  frame : MarkedFrame configuration frameSize
  first : Bytes
  rest : List Receipt
  arriving : (first :: arrivals rest).Sublist frame.payloads

namespace Passage

variable {configuration : OutputConfiguration} {frameSize : Nat}

def receipts (passage : Passage configuration frameSize) : List Receipt :=
  .ok passage.first :: passage.rest

/-- Either a frame arrives whole without a failure, or its last receipt is a failure. -/
inductive Settles (passage : Passage configuration frameSize) : Prop where
  | whole : passage.frame.Solid → passage.receipts = passage.frame.payloads.map .ok →
      Settles passage
  | failed (before : List Receipt) (error : StreamError) :
      passage.rest = before ++ [.error error] → Settles passage

end Passage

namespace OutputStream

/-- A read of which nothing was received yet, and that looks for a marker. -/
structure AtFrameStart (stream : OutputStream) (point : ReadPoint) : Prop where
  empty : stream.leftover = []
  nothing : point.held = []
  looking : point.looks = true

/-- Whenever the first payload to arrive of a frame is received, the read is at a frame start. -/
def Separates {configuration : OutputConfiguration} {frameSize : Nat} (start : ReadState)
    (pauses : List Receipt) (passages : List (Passage configuration frameSize)) : Prop :=
  ∀ before passage after, passages = before ++ passage :: after →
    ∀ results stream point,
      Reads start (pauses ++ before.flatMap Passage.receipts) results (stream, .waiting point) →
      stream.AtFrameStart point

variable {configuration : OutputConfiguration} {layer : Layer} {stream : OutputStream}

theorem Reads.of_finished
    (run : Reads (stream, .finished result) receipts results (last, .waiting point)) :
    ∃ rest, results = result :: rest ∧
      Reads (stream.beginRead stream.layer.frameSize).value receipts rest
        (last, .waiting point) := by
  cases run with
  | again run => exact ⟨_, rfl, run⟩

theorem Reads.split (part : Reads start receipts results (stream, .waiting point))
    (run : Reads start (receipts ++ more) results' (last, .waiting point')) :
    ∃ rest, results' = results ++ rest ∧
      Reads (stream, .waiting point) more rest (last, .waiting point') := by
  generalize ending : (stream, Progress.waiting point) = middle at part
  induction part generalizing results' with
  | done => exact ⟨results', rfl, run⟩
  | receive _ ih =>
    cases run with
    | receive run => exact ih run ending
  | again _ ih =>
    obtain ⟨results', rfl, continued⟩ := run.of_finished
    obtain ⟨rest, rfl, later⟩ := ih continued ending
    exact ⟨rest, rfl, later⟩

/-- As long as frames are kept apart, what is returned was sent. -/
theorem reads_separated (receiving : Receiving configuration layer stream)
    (positive : 0 < layer.frameSize) (enabled : configuration.syncEnabled = true)
    {passages : List (Passage configuration layer.frameSize)}
    (separates : Separates (stream, .waiting point) [] passages)
    (run : Reads (stream, .waiting point) (passages.flatMap Passage.receipts) results
      (last, .waiting point'))
    (returned : .ok bytes ∈ results) : ∃ passage ∈ passages, bytes = passage.frame.data := by
  induction passages generalizing stream point results with
  | nil =>
    cases run
    cases returned
  | cons passage passages ih =>
    have start := separates [] passage passages rfl [] stream point .done
    obtain ⟨here, next, between, receiving, first, sent⟩ := reads_arriving receiving positive
      enabled passage.frame point start.nothing start.looking passage.arriving
    obtain ⟨rest, rfl, later⟩ := first.split run
    rcases List.mem_append.mp returned with now | afterwards
    · exact ⟨passage, List.mem_cons_self, (sent bytes now).1⟩
    · have separates : Separates (next, .waiting between) [] passages := by
        rintro before other after rfl others stream point reached
        exact separates (passage :: before) other after rfl _ stream point (first.append reached)
      obtain ⟨other, member, same⟩ := ih receiving separates later afterwards
      exact ⟨other, List.mem_cons_of_mem _ member, same⟩

/-- A failure after every frame that does not arrive whole keeps frames apart. -/
theorem reads_settled (receiving : Receiving configuration layer stream)
    (positive : 0 < layer.frameSize) (enabled : configuration.syncEnabled = true)
    {passages : List (Passage configuration layer.frameSize)}
    (settles : ∀ passage ∈ passages, passage.Settles) :
    ∃ results next, Receiving configuration layer next ∧
      Reads (stream, .waiting stream.freshPoint) (passages.flatMap Passage.receipts) results
        (next, .waiting next.freshPoint) := by
  induction passages generalizing stream with
  | nil => exact ⟨[], stream, receiving, .done⟩
  | cons passage passages ih =>
    have ⟨here, later⟩ := List.forall_mem_cons.mp settles
    have first : ∃ results next, Receiving configuration layer next ∧
        Reads (stream, .waiting stream.freshPoint) passage.receipts results
          (next, .waiting next.freshPoint) := by
      cases here with
      | whole solid whole =>
        obtain ⟨next, receiving, run⟩ := reads_whole receiving positive enabled passage.frame solid
        exact ⟨_, next, receiving, whole ▸ run⟩
      | failed before error failed =>
        have arriving := passage.arriving
        rw [failed, arrivals, List.filterMap_append, List.filterMap_cons_none rfl,
          List.filterMap_nil, List.append_nil] at arriving
        obtain ⟨results, middle, point, receiving, run, _⟩ := reads_arriving receiving positive
          enabled passage.frame stream.freshPoint (held_freshPoint stream) (looks_freshPoint stream)
          arriving
        obtain ⟨next, receiving, last⟩ := reads_failure receiving positive enabled point error
        have split : passage.receipts = .ok passage.first :: before ++ [.error error] := by
          rw [Passage.receipts, failed, List.cons_append]
        exact ⟨_, next, receiving, split ▸ run.append last⟩
    obtain ⟨results, next, receiving, first⟩ := first
    obtain ⟨others, last, receiving, rest⟩ := ih receiving later
    exact ⟨_, last, receiving, first.append rest⟩

private def mixing : OutputConfiguration where
  maximumPayload := 64
  syncEnabled := true
  markerSize := 8
  buffersThreshold := 0
  payload_pos := by decide
  payload_le := by decide
  marker_min := by decide
  marker_lt := by decide

private def mixingStream (isActivated : Bool) (leftover : Bytes) (lastIndex : UInt32) :
    OutputStream :=
  { layer := ⟨"edge", .deviceToHost, 4, 1⟩, configuration := mixing,
    lifecycle := { name := "edge", isActivated }, timeout := .zero, batchSize := 1, leftover,
    lastIndex }

private def mixingFrame (position : UInt32) (first second third fourth : UInt8) :
    MarkedFrame mixing 4 :=
  .numbered mixing rfl position [first, second] [[third, fourth]] (by simp [mixing])

private theorem mixingFrame_solid (position : UInt32) (first second third fourth : UInt8) :
    (mixingFrame position first second third fourth).Solid :=
  ⟨List.cons_ne_nil _ _, List.forall_mem_singleton.mpr (List.cons_ne_nil _ _)⟩

private def mixingFrames : List (MarkedFrame mixing 4) :=
  [mixingFrame 0 1 2 3 4, mixingFrame 1 5 6 7 8]

/-- After an activation without `resume`, every frame that a read returns was sent, if the frames
are kept apart; and they are if a failure follows on each that does not arrive whole. -/
theorem reads_return_sent_frames {activated : Logged OutputStream} {batchSize : UInt16}
    (passages : List (Passage stream.configuration stream.layer.frameSize))
    (enabled : stream.configuration.syncEnabled = true) (positive : 0 < stream.layer.frameSize)
    (activation : stream.completeActivation batchSize false = .ok activated)
    (silent : arrivals pauses = []) :
    let start := (activated.value.beginRead stream.layer.frameSize).value
    (Separates start pauses passages →
      ∀ results last point,
        Reads start (pauses ++ passages.flatMap Passage.receipts) results (last, .waiting point) →
        ∀ bytes, .ok bytes ∈ results → ∃ passage ∈ passages, bytes = passage.frame.data) ∧
    ((∀ passage ∈ passages, passage.Settles) → Separates start pauses passages) := by
  have ⟨receiving, _⟩ := completeActivation_receiving activation
  have start := beginRead_fresh receiving positive
  rw [receiving.layer_eq] at start
  obtain ⟨idle, receiving, paused⟩ := reads_pauses receiving positive enabled silent
  simp only [start]
  constructor
  · intro separates results last point run bytes returned
    obtain ⟨rest, rfl, later⟩ := paused.split run
    rcases List.mem_append.mp returned with early | afterwards
    · exact absurd (mem_arrivals early) (silent ▸ List.not_mem_nil)
    · refine reads_separated receiving positive enabled ?_ later afterwards
      intro before passage after split results stream point reached
      exact separates before passage after split _ stream point (paused.append reached)
  · rintro settles before passage after rfl results stream point reached
    obtain ⟨_, next, receiving, run⟩ := reads_settled receiving positive enabled
      fun earlier member => settles earlier (List.mem_append_left _ member)
    obtain ⟨_, rfl, rfl⟩ := reached.unique (paused.append run)
    exact ⟨receiving.empty, held_freshPoint stream, looks_freshPoint stream⟩

theorem reads_return_sent_frames_of_two :
    ∃ (activated : Logged OutputStream) (results : List (Except StreamError Bytes))
      (last : OutputStream) (point : ReadPoint),
      (mixingStream false [] 0).completeActivation 1 false = .ok activated ∧
        Reads (activated.value.beginRead 4).value
          [.ok (SyncMarker.encode ⟨0⟩ 8 ++ [1, 2]), .error (.timeout "receive" .zero),
            .ok (SyncMarker.encode ⟨1⟩ 8 ++ [5, 6]), .ok [7, 8]]
          results (last, .waiting point) ∧
        ∀ bytes, .ok bytes ∈ results → bytes = [1, 2, 3, 4] ∨ bytes = [5, 6, 7, 8] := by
  let passages : List (Passage mixing 4) :=
    [⟨mixingFrame 0 1 2 3 4, SyncMarker.encode ⟨0⟩ 8 ++ [1, 2], [.error (.timeout "receive" .zero)],
        List.Sublist.cons_cons _ (List.nil_sublist _)⟩,
      ⟨mixingFrame 1 5 6 7 8, SyncMarker.encode ⟨1⟩ 8 ++ [5, 6], [.ok [7, 8]],
        List.Sublist.refl _⟩]
  have settles : ∀ passage ∈ passages, passage.Settles :=
    List.forall_mem_cons.mpr ⟨.failed [] _ rfl,
      List.forall_mem_singleton.mpr (.whole (mixingFrame_solid ..) rfl)⟩
  obtain ⟨activated, activation⟩ :
      ∃ activated, (mixingStream false [] 0).completeActivation 1 false = .ok activated := ⟨_, rfl⟩
  have ⟨receiving, _⟩ := completeActivation_receiving activation
  obtain ⟨results, last, _, run⟩ := reads_settled receiving (by decide) rfl settles
  rw [← beginRead_fresh receiving (by decide), receiving.layer_eq] at run
  have silent : arrivals [] = [] := rfl
  have ⟨sent, apart⟩ := reads_return_sent_frames passages rfl (by decide) activation silent
  refine ⟨activated, results, last, _, activation, run, ?_⟩
  intro bytes returned
  obtain ⟨passage, member, same⟩ := sent (apart settles) results last _ run bytes returned
  rcases List.mem_cons.mp member with rfl | member
  · exact .inl same
  · rw [List.mem_singleton.mp member] at same
    exact .inr same

/-- The second payload of each frame is lost. The rest of the first frame is then taken from the
first payload of the second, and two more frames from what that leaves over. -/
private theorem reads_mixing :
    Reads (mixingStream true [] SyncMarker.unobserved, .waiting (.assembling [] false))
      [.ok (SyncMarker.encode ⟨0⟩ 8 ++ [1, 2]), .ok (SyncMarker.encode ⟨1⟩ 8 ++ [5, 6])]
      [.ok [1, 2, 0x5A, 0x5A], .ok [0xA5, 0xA5, 0, 0], .ok [0, 1, 5, 6]]
      (mixingStream true [] 0, .waiting (.assembling [] false)) := by
  refine .receive ?_
  change Reads (mixingStream true [] 0, .waiting (.assembling [1, 2] true)) _ _ _
  refine .receive ?_
  change Reads
    (mixingStream true [0xA5, 0xA5, 0, 0, 0, 1, 5, 6] 0, .finished (.ok [1, 2, 0x5A, 0x5A])) _ _ _
  refine .again ?_
  change Reads (mixingStream true [0, 1, 5, 6] 0, .finished (.ok [0xA5, 0xA5, 0, 0])) _ _ _
  refine .again ?_
  change Reads (mixingStream true [] 0, .finished (.ok [0, 1, 5, 6])) _ _ _
  exact .again .done

/-- Without it a frame can be made of two, and contain a part of a marker. -/
theorem reads_return_mixed_frame :
    ¬ ∀ (stream : OutputStream) (activated : Logged OutputStream) (batchSize : UInt16)
      (frames : List (MarkedFrame stream.configuration stream.layer.frameSize))
      (trace : List Receipt) (results : List (Except StreamError Bytes)) (last : OutputStream)
      (point : ReadPoint),
      stream.configuration.syncEnabled = true → 0 < stream.layer.frameSize →
      stream.completeActivation batchSize false = .ok activated →
      (∀ frame ∈ frames, frame.Solid) →
      (∀ position frame, frames[position]? = some frame →
        frame.header =
          SyncMarker.encode ⟨UInt32.ofNat position⟩ stream.configuration.markerSize) →
      (arrivals trace).Sublist (frames.flatMap MarkedFrame.payloads) →
      Reads (activated.value.beginRead stream.layer.frameSize).value trace results
        (last, .waiting point) →
      ∀ bytes, .ok bytes ∈ results → ∃ frame ∈ frames, bytes = frame.data := by
  intro claim
  have solid : ∀ frame ∈ mixingFrames, frame.Solid :=
    List.forall_mem_cons.mpr
      ⟨mixingFrame_solid .., List.forall_mem_singleton.mpr (mixingFrame_solid ..)⟩
  have numbered (position : Nat) (frame : MarkedFrame mixing 4)
      (found : mixingFrames[position]? = some frame) :
      frame.header = SyncMarker.encode ⟨UInt32.ofNat position⟩ mixing.markerSize := by
    match position, found with
    | 0, found => cases found; rfl
    | 1, found => cases found; rfl
    | _ + 2, found => cases found
  obtain ⟨frame, member, same⟩ := claim (mixingStream false [] 0) _ 1 mixingFrames _ _ _ _ rfl
    (by decide) rfl solid numbered (by decide) reads_mixing [1, 2, 0x5A, 0x5A] List.mem_cons_self
  rcases List.mem_cons.mp member with rfl | member
  · exact absurd same (by decide)
  · rw [List.mem_singleton.mp member] at same
    exact absurd same (by decide)

end OutputStream

end FrameStream
