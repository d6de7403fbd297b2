import FrameStream.Proofs.MarkerCodec

namespace FrameStream

theorem wordBytes_bytesWord (first second third fourth : UInt8) :
    wordBytes (bytesWord first second third fourth) = [first, second, third, fourth] := by
  have highest := first.toNat_lt
  have high := second.toNat_lt
  have low := third.toNat_lt
  have lowest := fourth.toNat_lt
  simp only [wordBytes, List.cons.injEq, and_true]
  refine ⟨?_, ?_, ?_, ?_⟩
  all_goals
    apply UInt8.toNat_inj.mp
    simp only [UInt32.toNat_toUInt8, UInt32.toNat_shiftRight, UInt32.reduceToNat, Nat.reduceMod,
      toNat_bytesWord, Nat.shiftLeft_eq, Nat.shiftRight_eq_div_pow]
    omega

theorem wordBytes_inj {word other : UInt32} : wordBytes word = wordBytes other ↔ word = other := by
  constructor
  · intro same
    simp only [wordBytes, List.cons.injEq, and_true] at same
    obtain ⟨first, second, third, fourth⟩ := same
    rw [← bytesWord_wordBytes word, ← bytesWord_wordBytes other, first, second, third, fourth]
  · intro same
    rw [same]

namespace SyncMarker

/-- What a marker is recognised by: the signature and the index. -/
def opening (marker : SyncMarker) : Bytes := wordBytes signature ++ wordBytes marker.index

variable {marker other : SyncMarker} {payload : Bytes} {size smaller : Nat}

@[simp]
theorem length_opening (marker : SyncMarker) : marker.opening.length = minimumSize := rfl

theorem encode_minimum (marker : SyncMarker) : marker.encode minimumSize = marker.opening := by
  rw [encode, Nat.sub_self, List.replicate_zero, List.append_nil, opening]

theorem take_encode (marker : SyncMarker) (size : Nat) :
    (marker.encode size).take minimumSize = marker.opening := by
  rw [encode, ← opening, List.take_append_of_le_length (Nat.le_of_eq marker.length_opening.symm),
    ← marker.length_opening, List.take_length]

theorem opening_inj : marker.opening = other.opening ↔ marker = other := by
  rw [opening, opening, List.append_cancel_left_eq, wordBytes_inj]
  exact ⟨fun same => congrArg SyncMarker.mk same, congrArg SyncMarker.index⟩

theorem decode?_smaller (enough : minimumSize ≤ smaller) (le : smaller ≤ size)
    (long : size ≤ payload.length) : decode? payload smaller = decode? payload size := by
  have large : ¬ (size < minimumSize ∨ payload.length < size) := by omega
  have large' : ¬ (smaller < minimumSize ∨ payload.length < smaller) := by omega
  unfold decode?
  rw [if_neg large, if_neg large']

/-- A payload opens with a marker exactly if it is long enough and begins as the marker does. -/
theorem decode?_eq_some_iff :
    decode? payload size = some marker ↔
      minimumSize ≤ size ∧ size ≤ payload.length ∧ payload.take minimumSize = marker.opening := by
  constructor
  · intro decoded
    have ⟨enough, long⟩ := length_of_decode? decoded
    refine ⟨enough, long, ?_⟩
    unfold decode? at decoded
    rw [if_neg (by omega)] at decoded
    split at decoded
    · split at decoded
      · rename_i signed
        cases decoded
        simp only [opening, ← signed, wordBytes_bytesWord]
        rfl
      · cases decoded
    · cases decoded
  · rintro ⟨enough, long, begins⟩
    rw [← decode?_smaller (Nat.le_refl _) enough long, ← payload.take_append_drop minimumSize,
      begins, ← encode_minimum]
    exact marker.decode?_encode _ (Nat.le_refl _)

/-- What comes after the opening does not matter, nor how long it is beyond the size. -/
theorem decode?_congr {payload' : Bytes} (long : size ≤ payload.length ↔ size ≤ payload'.length)
    (same : payload.take minimumSize = payload'.take minimumSize) :
    decode? payload size = decode? payload' size := by
  apply Option.ext
  intro marker
  rw [decode?_eq_some_iff, decode?_eq_some_iff, long, same]

/-- Markers are a code. A marker is written in exactly as many bytes as asked for, behind what the
buffer holds, and read back whatever follows it. A payload is read as a marker exactly if it is long
enough and begins with the same eight bytes as the marker. So different markers are written
differently, the reserved bytes do not matter, and a marker that is read at one size is read at all
smaller ones. -/
theorem code_exact :
    (∀ (marker : SyncMarker) (size : Nat) (before after : Bytes), minimumSize ≤ size →
      marker.appendTo before size = before ++ marker.encode size ∧
        (marker.encode size).length = size ∧
        decode? (marker.encode size ++ after) size = some marker) ∧
      (∀ (payload : Bytes) (size : Nat) (marker : SyncMarker),
        decode? payload size = some marker ↔
          minimumSize ≤ size ∧ size ≤ payload.length ∧
            payload.take minimumSize = (marker.encode size).take minimumSize) ∧
      (∀ (marker other : SyncMarker) (size size' : Nat),
        marker.encode size = other.encode size' → marker = other) ∧
      (∀ (payload payload' : Bytes) (size : Nat),
        (size ≤ payload.length ↔ size ≤ payload'.length) →
        payload.take minimumSize = payload'.take minimumSize →
        decode? payload size = decode? payload' size) ∧
      ∀ (payload : Bytes) (size smaller : Nat) (marker : SyncMarker),
        decode? payload size = some marker → minimumSize ≤ smaller → smaller ≤ size →
        decode? payload smaller = some marker := by
  refine ⟨?_, ?_, ?_, fun _ _ _ long same => decode?_congr long same, ?_⟩
  · intro marker size before after enough
    exact ⟨marker.appendTo_eq before size, marker.encode_length enough,
      marker.decode?_encode after enough⟩
  · intro payload size marker
    rw [take_encode]
    exact decode?_eq_some_iff
  · intro marker other size size' same
    rw [← opening_inj, ← take_encode marker size, ← take_encode other size', same]
  · intro payload size smaller marker decoded enough le
    rw [← decoded]
    exact decode?_smaller enough le (length_of_decode? decoded).2

/-- A payload whose reserved bytes are not zeros is read as the marker that has zeros there. -/
theorem code_exact_of_used_reserve :
    let marker : SyncMarker := ⟨0x01020304⟩
    let payload : Bytes := [0x5A, 0x5A, 0xA5, 0xA5, 1, 2, 3, 4, 9, 9, 9, 9, 5]
    minimumSize ≤ 12 ∧ marker.appendTo [7] 12 = [7] ++ marker.encode 12 ∧
      payload ≠ marker.encode 12 ++ [5] ∧
      decode? payload 12 = decode? (marker.encode 12 ++ [5]) 12 ∧
      decode? payload 12 = some marker ∧ decode? payload 9 = some marker := by
  intro marker payload
  obtain ⟨written, reads, -, reserved, smaller⟩ := code_exact
  have enough : minimumSize ≤ 12 := by decide
  have appended := written marker 12 [7] [5] enough
  have decoded := (reads payload 12 marker).mpr ⟨enough, by decide, by decide⟩
  have same := reserved payload (marker.encode 12 ++ [5]) 12 (by decide) (by decide)
  exact ⟨enough, appended.1, by decide, same, decoded,
    smaller payload 12 9 marker decoded (by decide) (by decide)⟩

end SyncMarker

end FrameStream
