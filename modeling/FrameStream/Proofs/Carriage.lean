import FrameStream.Proofs.Attempts
import FrameStream.Proofs.ByteStream
import FrameStream.Proofs.WireImage

namespace FrameStream

/-- Datagrams that carry some bytes: none of them is empty, and none is longer than a payload. -/
structure Carries (maximum : Nat) (bytes : Bytes) (arrived : List Bytes) : Prop where
  whole : arrived.flatten = bytes
  solid : ∀ datagram ∈ arrived, datagram ≠ []
  within : ∀ datagram ∈ arrived, datagram.length ≤ maximum

theorem Carries.nil (maximum : Nat) : Carries maximum [] [] :=
  ⟨rfl, nofun, nofun⟩

theorem Carries.single (nonempty : bytes ≠ []) (within : bytes.length ≤ maximum) :
    Carries maximum bytes [bytes] :=
  ⟨List.append_nil bytes, List.forall_mem_singleton.mpr nonempty,
    List.forall_mem_singleton.mpr within⟩

theorem Carries.take (nonempty : bytes ≠ []) (positive : 0 < accepted)
    (within : bytes.length ≤ maximum) :
    Carries maximum (bytes.take accepted) [bytes.take accepted] := by
  have some := List.length_pos_iff.mpr nonempty
  apply Carries.single
  · exact List.ne_nil_of_length_pos (by rw [List.length_take]; omega)
  · exact Nat.le_trans (List.length_take_le' ..) within

theorem Carries.mono (carries : Carries maximum bytes arrived) (le : maximum ≤ larger) :
    Carries larger bytes arrived :=
  ⟨carries.whole, carries.solid,
    fun datagram member => Nat.le_trans (carries.within datagram member) le⟩

theorem Carries.append (first : Carries maximum bytes arrived)
    (second : Carries maximum more others) :
    Carries maximum (bytes ++ more) (arrived ++ others) where
  whole := by rw [List.flatten_append, first.whole, second.whole]
  solid := List.forall_mem_append.mpr ⟨first.solid, second.solid⟩
  within := List.forall_mem_append.mpr ⟨first.within, second.within⟩

theorem Carries.flatten {strings : List Bytes}
    (carried : List.Forall₂ (Carries maximum) strings parts) :
    Carries maximum strings.flatten parts.flatten := by
  induction carried with
  | nil => exact .nil maximum
  | cons carries _ ih => exact carries.append ih

namespace InputStream

/-- A stream that sends the bytes of its frames and nothing else. -/
structure Bare (stream : InputStream) : Prop where
  disabled : stream.configuration.syncEnabled = false
  unpadded : stream.configuration.padsFrames = false
  frameSize_pos : 0 < stream.layer.frameSize

variable {stream : InputStream} {frame : Bytes}

theorem Bare.beginWrite_eq (bare : Bare stream) (active : stream.lifecycle.state = .active)
    (exact : frame.length = stream.layer.frameSize) :
    (stream.beginWrite frame).value =
      (stream.proceed (pieces stream.configuration.maximumPayload frame)).value := by
  have nonempty : frame ≠ [] := List.ne_nil_of_length_pos (exact ▸ bare.frameSize_pos)
  have unmarked : stream.nextMarker? = none := by simp [nextMarker?, bare.disabled]
  rw [beginWrite_drawn active exact, drawn, unmarked,
    InputConfiguration.payloads_eq_image (Nat.zero_le _) nonempty,
    InputConfiguration.image_of_unpadded bare.unpadded nonempty]
  rfl

theorem Writes.carries (run : Writes state exchanges last) (leaves : Leaves origin payloads state)
    (nonempty : ∀ payload ∈ payloads, payload ≠ [])
    (within : ∀ payload ∈ payloads, payload.length ≤ maximum)
    (succeeded : last.2 = .finished (.ok ())) :
    Carries maximum payloads.flatten (datagrams exchanges) ∧ Leaves origin [] last := by
  induction run generalizing payloads with
  | done =>
    cases leaves with
    | written lifecycle => exact ⟨.nil maximum, .written lifecycle⟩
    | waiting | failed => cases succeeded
  | reserve run ih =>
    cases leaves with
    | waiting lifecycle unsent =>
      subst unsent
      have ⟨first, _⟩ := List.forall_mem_cons.mp nonempty
      exact ih (granted_leaves _ first _ _).of_lifecycle nonempty within succeeded
  | rest run ih =>
    cases leaves with
    | waiting lifecycle unsent =>
      subst unsent
      exact ih (rested_leaves _ _ _ _).of_lifecycle nonempty within succeeded
  | @send exchanges last stream payload taken later outcome run ih =>
    cases leaves with
    | waiting lifecycle unsent =>
      subst unsent
      have ⟨first, others⟩ := List.forall_mem_cons.mp nonempty
      have ⟨fits, shorter⟩ := List.forall_mem_cons.mp within
      match outcome with
      | .error error => cases run.failed.symm.trans succeeded
      | .ok 0 => cases run.failed.symm.trans succeeded
      | .ok (accepted + 1) =>
        have leaves := (delivered_part_leaves { origin with lifecycle } payload taken later
          (Nat.succ_pos accepted)).of_lifecycle
        -- The part that was taken, before what is left of the payload.
        have part := Carries.take first (Nat.succ_pos accepted) fits
        change Carries maximum (payload.drop taken ++ later.flatten)
          ([(payload.drop taken).take (accepted + 1)] ++ datagrams exchanges) ∧ _
        by_cases more : accepted + 1 < (payload.drop taken).length
        · rw [if_pos more] at leaves
          have left : (payload.drop taken).drop (accepted + 1) ≠ [] :=
            List.ne_nil_of_length_pos (by rw [List.length_drop]; omega)
          have ⟨remaining, counted⟩ := ih leaves (List.forall_mem_cons.mpr ⟨left, others⟩)
            (List.forall_mem_cons.mpr
              ⟨Nat.le_trans (List.drop_sublist ..).length_le fits, shorter⟩) succeeded
          have whole := part.append remaining
          rw [List.flatten_cons, ← List.append_assoc, List.take_append_drop] at whole
          exact ⟨whole, counted⟩
        · rw [if_neg more] at leaves
          have ⟨remaining, counted⟩ := ih leaves others shorter succeeded
          rw [List.take_of_length_le (Nat.not_lt.mp more)] at part ⊢
          exact ⟨part.append remaining, counted⟩
  | signal run ih => exact ih (leaves.signal _) nonempty within succeeded

theorem Bare.write (bare : Bare stream)
    (run : Writes (stream.beginWrite frame).value exchanges (next, .finished (.ok ()))) :
    frame.length = stream.layer.frameSize ∧
      Carries stream.configuration.maximumPayload frame (datagrams exchanges) ∧
      ∃ lifecycle, next =
        { stream with lifecycle, frameCounter := stream.frameCounter + 1 } := by
  rcases stream.beginWrite_cases frame with ⟨error, failed⟩ | ⟨exact, active⟩
  · rw [failed] at run
    cases run.failed
  · rw [bare.beginWrite_eq active exact] at run
    have positive := stream.configuration.payload_pos
    have ⟨carries, leaves⟩ := run.carries (proceed_leaves stream _)
      (fun piece member => List.ne_nil_of_length_pos (pieces_bounds positive member).1)
      (fun piece member => (pieces_bounds positive member).2) rfl
    rw [flatten_pieces positive] at carries
    cases leaves with
    | written lifecycle => exact ⟨exact, carries, lifecycle, rfl⟩

theorem WritesAll.carries (run : WritesAll stream frames traces last) (bare : Bare stream) :
    (∀ frame ∈ frames, frame.length = stream.layer.frameSize) ∧
      List.Forall₂ (Carries stream.configuration.maximumPayload) frames
        (traces.map datagrams) := by
  induction run with
  | done => exact ⟨nofun, .nil⟩
  | signal run ih => exact ih ⟨bare.disabled, bare.unpadded, bare.frameSize_pos⟩
  | write written run ih =>
    obtain ⟨exact, carries, lifecycle, rfl⟩ := bare.write written
    have ⟨sized, carried⟩ := ih ⟨bare.disabled, bare.unpadded, bare.frameSize_pos⟩
    exact ⟨List.forall_mem_cons.mpr ⟨exact, sized⟩, .cons carries carried⟩

end InputStream

namespace OutputStream

theorem firstFrames_flatten {frames : List Bytes} (sized : ∀ frame ∈ frames, frame.length = size) :
    firstFrames size frames.flatten frames.length = frames.map .ok := by
  induction frames with
  | nil => rfl
  | cons frame frames ih =>
    have ⟨exact, sized⟩ := List.forall_mem_cons.mp sized
    have first : frameAt size (frame ++ frames.flatten) 0 = frame := by
      rw [frameAt_zero, ← exact, List.take_left]
    have next (index : Nat) :
        frameAt size (frame ++ frames.flatten) (index + 1) = frameAt size frames.flatten index := by
      rw [frameAt, frameAt, Nat.succ_mul, Nat.add_comm, ← List.drop_drop, ← exact, List.drop_left]
    rw [List.length_cons, List.flatten_cons, firstFrames, List.range_succ_eq_map, List.map_cons,
      List.map_map, first, List.map_cons, ← ih sized, firstFrames]
    exact congrArg _ (List.map_congr_left fun index _ => congrArg _ (next index))

end OutputStream

/-- A stream that sends the bytes of its frames, and a stream that reads frames of the same size
from payloads of the same size, without markers and with nothing left over. -/
structure Matched (input : InputStream) (output : OutputStream) : Prop
    extends InputStream.Bare input where
  reached : output.Reached .idle
  active : output.lifecycle.state = .active
  unmarked : output.configuration.syncEnabled = false
  empty : output.leftover = []
  frameSize_eq : output.layer.frameSize = input.layer.frameSize
  payload_eq : output.configuration.maximumPayload = input.configuration.maximumPayload

namespace Matched

variable {input : InputStream} {output : OutputStream} {frame : Bytes}
  (matched : Matched input output)
include matched

theorem plain : output.Plain := matched.reached.plain matched.active matched.unmarked

/-- What a run of writes sent is read as its frames, and as nothing more. -/
theorem returns (run : InputStream.WritesAll input frames traces final) (error : StreamError)
    (results : List (Except StreamError Bytes)) :
    (∃ last point, OutputStream.Reads (output.beginRead output.layer.frameSize).value
        ((traces.flatMap datagrams).map .ok ++ [.error error]) results (last, .waiting point)) ↔
      results = frames.map .ok ++ [.error error] := by
  have ⟨sized, carried⟩ := run.carries matched.toBare
  have positive : 0 < output.layer.frameSize := matched.frameSize_eq ▸ matched.frameSize_pos
  have bounded : output.leftover.length < output.configuration.maximumPayload := by
    rw [matched.empty]
    exact output.configuration.payload_pos
  have carries : Carries output.configuration.maximumPayload frames.flatten
      (traces.flatMap datagrams) := matched.payload_eq ▸ Carries.flatten carried
  have whole : output.ahead (traces.flatMap datagrams) = frames.flatten := by
    rw [OutputStream.ahead, matched.empty, List.nil_append, carries.whole]
  have count : frames.flatten.length / output.layer.frameSize = frames.length := by
    have lengths : frames.map List.length =
        List.replicate frames.length output.layer.frameSize :=
      List.eq_replicate_iff.mpr ⟨List.length_map _, by simpa [matched.frameSize_eq] using sized⟩
    rw [List.length_flatten, lengths, List.sum_replicate_nat, Nat.mul_div_cancel _ positive]
  rw [(matched.plain.readsBytes positive bounded carries.within).all, whole, count,
    OutputStream.firstFrames_flatten (matched.frameSize_eq ▸ sized)]

/-- A read takes exactly the datagrams that carry the next frame. -/
theorem reads (carries : Carries output.configuration.maximumPayload frame arrived)
    (exact : frame.length = output.layer.frameSize) :
    OutputStream.Reads (output.beginRead output.layer.frameSize).value (arrived.map .ok) []
      (output, .finished (.ok frame)) := by
  have begins := matched.plain.begins
  rw [matched.empty] at begins
  have enough : output.layer.frameSize ≤ ([] ++ arrived.flatten).length := by
    rw [List.nil_append, carries.whole]
    exact Nat.le_of_eq exact.symm
  obtain ⟨taken, most, run, reached, _⟩ := matched.plain.completes begins carries.within enough
  -- What is still to come after the frame is complete has no bytes.
  have complete : arrived.take taken ++ arrived.drop taken = arrived := List.take_append_drop ..
  have none : arrived.drop taken = [] := by
    have total := congrArg (fun datagrams => datagrams.flatten.length) complete
    simp only [List.flatten_append, List.length_append, carries.whole] at total
    rw [List.nil_append] at reached
    have void : (arrived.drop taken).flatten = [] := List.eq_nil_of_length_eq_zero (by omega)
    refine List.eq_nil_iff_forall_not_mem.mpr fun datagram member => ?_
    exact carries.solid datagram (List.mem_of_mem_drop member)
      (List.flatten_eq_nil_iff.mp void datagram member)
  rw [none, List.append_nil] at complete
  rw [complete, List.nil_append, carries.whole, ← exact, List.drop_length, List.take_length,
    OutputStream.leaving_of_empty matched.empty] at run
  exact exact ▸ run

end Matched

end FrameStream
