import FrameStream.InputStream
import FrameStream.Proofs.Pieces

namespace FrameStream

namespace InputConfiguration

/-- Whether the frame at a position opens with a marker, as told by a counter of 64 bits. -/
def marks (configuration : InputConfiguration) (position : Nat) : Bool :=
  configuration.syncEnabled &&
    UInt64.ofNat position % configuration.framesPerSync.toUInt64 == 0

def markersBefore (configuration : InputConfiguration) (position : Nat) : Nat :=
  (List.range position).countP configuration.marks

/-- The marker of the frame at a position. -/
def marker? (configuration : InputConfiguration) (position : Nat) : Option SyncMarker :=
  if configuration.marks position then
    some ⟨UInt32.ofNat (configuration.markersBefore position)⟩
  else none

variable {configuration : InputConfiguration} {position : Nat}

theorem marker?_eq_none :
    configuration.marker? position = none ↔ configuration.marks position = false := by
  simp [marker?]

theorem marker?_eq_some :
    configuration.marker? position = some marker ↔ configuration.marks position = true ∧
      marker.index = UInt32.ofNat (configuration.markersBefore position) := by
  obtain ⟨index⟩ := marker
  unfold marker?
  by_cases marked : configuration.marks position = true
  · rw [if_pos marked, Option.some_inj, SyncMarker.mk.injEq]
    constructor
    · intro same
      exact ⟨marked, same.symm⟩
    · rintro ⟨_, same⟩
      exact same.symm
  · rw [if_neg marked]
    constructor
    · intro same
      cases same
    · rintro ⟨marks, _⟩
      exact absurd marks marked

theorem marks_of_every (enabled : configuration.syncEnabled = true)
    (every : configuration.framesPerSync = 1) : configuration.marks position = true := by
  simp [marks, enabled, every]

/-- While the counter has not wrapped, every `framesPerSync`th frame is marked. -/
theorem marks_iff (small : position < UInt64.size) :
    configuration.marks position = true ↔
      configuration.syncEnabled = true ∧ configuration.framesPerSync.toNat ∣ position := by
  have counter : (UInt64.ofNat position).toNat = position := by
    rw [UInt64.toNat_ofNat']
    exact Nat.mod_eq_of_lt small
  rw [marks, Bool.and_eq_true, beq_iff_eq, ← UInt64.toNat_inj, UInt64.toNat_mod, counter,
    UInt32.toNat_toUInt64, Nat.dvd_iff_mod_eq_zero]
  rfl

theorem framesPerSync_pos (enabled : configuration.syncEnabled = true) :
    0 < configuration.framesPerSync.toNat := by
  refine Nat.pos_of_ne_zero fun none => configuration.cadence_pos enabled ?_
  exact UInt32.toNat_inj.mp none

theorem markersBefore_succ (configuration : InputConfiguration) (position : Nat) :
    configuration.markersBefore (position + 1) =
      configuration.markersBefore position + if configuration.marks position then 1 else 0 := by
  rw [markersBefore, List.range_succ, List.countP_append, List.countP_singleton]
  rfl

/-- The marked frames are one for each begun group of `framesPerSync`. -/
theorem markersBefore_eq (enabled : configuration.syncEnabled = true)
    (small : position ≤ UInt64.size) :
    configuration.markersBefore position =
      pieceCount configuration.framesPerSync.toNat position := by
  have positive := framesPerSync_pos enabled
  induction position with
  | zero => exact (pieceCount_zero positive).symm
  | succ position ih =>
    have marked : configuration.marks position = true ↔ _ := marks_iff (by omega)
    rw [markersBefore_succ, ih (by omega), pieceCount_succ positive]
    simp only [marked, enabled, true_and]

/-- The index of a marker is the number of whole groups before its frame, in 32 bits. -/
theorem marker?_eq (small : position < UInt64.size) :
    configuration.marker? position =
      if configuration.syncEnabled = true ∧ configuration.framesPerSync.toNat ∣ position then
        some ⟨UInt32.ofNat (position / configuration.framesPerSync.toNat)⟩
      else none := by
  unfold marker?
  by_cases marked : configuration.marks position = true
  · obtain ⟨enabled, groups, rfl⟩ := (marks_iff small).mp marked
    have positive := framesPerSync_pos enabled
    rw [if_pos marked, if_pos ⟨enabled, groups, rfl⟩, markersBefore_eq enabled (by omega),
      pieceCount_mul positive, Nat.mul_div_cancel_left _ positive]
  · rw [if_neg marked, if_neg fun divides => marked ((marks_iff small).mpr divides)]

end InputConfiguration

namespace InputStream

/-- The stream when it has sent the given number of frames and begun to send another number. -/
def counting (stream : InputStream) (sent begun : Nat) : InputStream :=
  { stream with
    frameCounter := UInt64.ofNat sent
    syncIndex := UInt32.ofNat (stream.configuration.markersBefore begun) }

variable {stream : InputStream} {frame : Bytes}

theorem nextMarker?_counting (stream : InputStream) (position : Nat) :
    (stream.counting position position).nextMarker? = stream.configuration.marker? position := rfl

theorem beginWrite_counting (active : stream.lifecycle.state = .active)
    (exact : frame.length = stream.layer.frameSize) (position : Nat) :
    ((stream.counting position position).beginWrite frame).value =
      ((stream.counting position (position + 1)).proceed
        (stream.configuration.payloads (stream.configuration.marker? position) frame)).value := by
  have ready : (stream.counting position position).lifecycle.ensureActive = .ok () :=
    (Lifecycle.ensureActive_eq_ok _).mpr active
  have sized : ¬ frame.length ≠ (stream.counting position position).layer.frameSize :=
    fun other => other exact
  unfold beginWrite
  rw [if_neg sized, ready, nextMarker?_counting]
  have used := stream.configuration.markersBefore_succ position
  by_cases marked : stream.configuration.marks position = true
  · have next : SyncMarker.successor (UInt32.ofNat (stream.configuration.markersBefore position)) =
        UInt32.ofNat (stream.configuration.markersBefore (position + 1)) := by
      rw [used, if_pos marked, UInt32.ofNat_add]
      rfl
    simp only [InputConfiguration.marker?, if_pos marked]
    simp only [counting, next]
    split <;> rfl
  · have same : stream.counting position (position + 1) = stream.counting position position := by
      rw [counting, used, if_neg marked]
      rfl
    rw [same]
    simp only [InputConfiguration.marker?, if_neg marked]
    rfl

theorem proceed_counting (stream : InputStream) (position : Nat) :
    ((stream.counting position (position + 1)).proceed []).value =
      (stream.counting (position + 1) (position + 1), .finished (.ok ())) := by
  have counted : UInt64.ofNat position + 1 = UInt64.ofNat (position + 1) := by
    rw [UInt64.ofNat_add]; rfl
  simp only [proceed, counting, counted]

end InputStream

end FrameStream
