import FrameStream.Proofs.Cadence
import FrameStream.Proofs.MarkerCodec
import Mathlib.Data.List.ModifyLast

namespace FrameStream

namespace InputConfiguration

variable {configuration : InputConfiguration} {marker? : Option SyncMarker} {position : Nat}

def header (configuration : InputConfiguration) (marker? : Option SyncMarker) : Bytes :=
  (marker?.map fun marker => marker.encode configuration.markerSize).getD []

/-- A frame as pieces of the largest payload, with only the last of them padded. -/
def image (configuration : InputConfiguration) (marker? : Option SyncMarker) (frame : Bytes) :
    List Bytes :=
  (pieces configuration.maximumPayload (configuration.header marker? ++ frame)).modifyLast
    configuration.padded

theorem syncEnabled_of_marks (marked : configuration.marks position = true) :
    configuration.syncEnabled = true :=
  (Bool.and_eq_true_iff.mp marked).1

theorem header_of_unmarked (unmarked : configuration.marks position = false) :
    configuration.header (configuration.marker? position) = [] := by
  simp [InputConfiguration.marker?, unmarked, header]

theorem length_header (marked : configuration.marks position = true) :
    (configuration.header (configuration.marker? position)).length = configuration.markerSize := by
  have enough := configuration.marker_min (syncEnabled_of_marks marked)
  simp [InputConfiguration.marker?, marked, header, SyncMarker.encode_length _ enough]

/-- A marker always leaves room for data. -/
theorem length_header_lt (configuration : InputConfiguration) (position : Nat) :
    (configuration.header (configuration.marker? position)).length <
      configuration.maximumPayload := by
  by_cases marked : configuration.marks position = true
  · rw [length_header marked]
    exact configuration.marker_lt (syncEnabled_of_marks marked)
  · rw [header_of_unmarked (by simpa using marked)]
    exact configuration.payload_pos

/-- The loop of a write cuts the rest of a frame into pieces, and pads the last payload only. -/
theorem payloadsFrom_eq (configuration : InputConfiguration) (payload rest : Bytes) :
    configuration.payloadsFrom payload rest =
      (payload :: pieces configuration.maximumPayload rest).modifyLast configuration.padded := by
  induction payload, rest using payloadsFrom.induct configuration with
  | case1 payload =>
    rw [payloadsFrom, pieces_nil configuration.payload_pos]
    rfl
  | case2 payload next more ih =>
    rw [payloadsFrom, ih, pieces_of_ne_nil configuration.payload_pos (List.cons_ne_nil next more)]
    exact (List.modifyLast_append_of_right_ne_nil _ [payload] _ (List.cons_ne_nil _ _)).symm

theorem payloads_eq_image
    (room : (configuration.header marker?).length ≤ configuration.maximumPayload)
    (nonempty : frame ≠ []) :
    configuration.payloads marker? frame = configuration.image marker? frame := by
  have marked : configuration.header marker? ++ frame ≠ [] := by simp [nonempty]
  have present : ¬ frame.isEmpty = true := by simpa using nonempty
  rw [payloads, if_neg present, image, pieces_of_ne_nil configuration.payload_pos marked,
    payloadsFrom_eq, List.take_append, List.take_of_length_le room, List.drop_append,
    List.drop_of_length_le room]
  rfl

/-- Padding adds to a payload, and never beyond the largest. -/
theorem padded_bounds (within : payload.length ≤ configuration.maximumPayload) :
    payload <+: configuration.padded payload ∧
      (configuration.padded payload).length ≤ configuration.maximumPayload := by
  unfold padded
  split
  · refine ⟨List.prefix_append _ _, ?_⟩
    rw [List.length_append, List.length_replicate]
    omega
  · exact ⟨List.prefix_rfl, within⟩

theorem image_eq_concat (configuration : InputConfiguration) (marker? : Option SyncMarker)
    (nonempty : frame ≠ []) :
    ∃ full final,
      pieces configuration.maximumPayload (configuration.header marker? ++ frame) =
        full ++ [final] ∧
      configuration.image marker? frame = full ++ [configuration.padded final] := by
  have marked : configuration.header marker? ++ frame ≠ [] := by simp [nonempty]
  have present :
      pieces configuration.maximumPayload (configuration.header marker? ++ frame) ≠ [] := by
    rw [pieces_of_ne_nil configuration.payload_pos marked]
    exact List.cons_ne_nil _ _
  obtain ⟨full, final, split⟩ : ∃ full final,
      pieces configuration.maximumPayload (configuration.header marker? ++ frame) =
        full ++ [final] :=
    ⟨_, _, (List.dropLast_concat_getLast present).symm⟩
  refine ⟨full, final, split, ?_⟩
  rw [image, split, List.modifyLast_concat]

theorem image_of_unpadded (unpadded : configuration.padsFrames = false) (nonempty : frame ≠ []) :
    configuration.image marker? frame =
      pieces configuration.maximumPayload (configuration.header marker? ++ frame) := by
  obtain ⟨full, final, cut, image⟩ := configuration.image_eq_concat marker? nonempty
  rw [image, cut, padded, if_neg (by simp [unpadded])]

theorem image_bounds (nonempty : frame ≠ [])
    (member : datagram ∈ configuration.image marker? frame) :
    0 < datagram.length ∧ datagram.length ≤ configuration.maximumPayload := by
  obtain ⟨full, final, split, image⟩ := configuration.image_eq_concat marker? nonempty
  have bounds {piece : Bytes} (member : piece ∈ full ++ [final]) :=
    pieces_bounds configuration.payload_pos (split ▸ member)
  rw [image, List.mem_append, List.mem_singleton] at member
  rcases member with inFull | rfl
  · exact bounds (List.mem_append_left _ inFull)
  · have ⟨least, within⟩ := bounds (List.mem_append_right _ (List.mem_singleton_self final))
    have ⟨padding, most⟩ := padded_bounds within
    exact ⟨Nat.lt_of_lt_of_le least padding.length_le, most⟩

theorem image_nonempty (configuration : InputConfiguration) (marker? : Option SyncMarker)
    (nonempty : frame ≠ []) : ∀ payload ∈ configuration.image marker? frame, payload ≠ [] :=
  fun _ member => List.ne_nil_of_length_pos (image_bounds nonempty member).1

theorem length_image (nonempty : frame ≠ []) :
    (configuration.image marker? frame).length =
      pieceCount configuration.maximumPayload
        ((configuration.header marker?).length + frame.length) := by
  obtain ⟨full, final, split, image⟩ := configuration.image_eq_concat marker? nonempty
  have count := congrArg List.length split
  rw [length_pieces, List.length_append] at count
  rw [image, count, List.length_append, List.length_append]
  rfl

theorem head?_image (configuration : InputConfiguration) (marker? : Option SyncMarker)
    (nonempty : frame ≠ []) :
    ∃ first, (configuration.image marker? frame).head? = some first ∧
      (configuration.header marker? ++ frame).take configuration.maximumPayload <+: first := by
  obtain ⟨full, final, split, image⟩ := configuration.image_eq_concat marker? nonempty
  have marked : configuration.header marker? ++ frame ≠ [] := by simp [nonempty]
  have cut := pieces_of_ne_nil configuration.payload_pos marked
  rw [split] at cut
  rw [image]
  cases full with
  | nil =>
    have first : final = _ := (List.cons.inj cut).1
    have within : final.length ≤ configuration.maximumPayload := by
      rw [first, List.length_take]
      omega
    exact ⟨_, rfl, first ▸ (padded_bounds within).1⟩
  | cons piece full => exact ⟨_, rfl, (List.cons.inj cut).1 ▸ List.prefix_rfl⟩

end InputConfiguration

end FrameStream
