import FrameStream.SyncMarker

namespace FrameStream

theorem toNat_bytesWord (first second third fourth : UInt8) :
    (bytesWord first second third fourth).toNat =
      first.toNat <<< 24 + second.toNat <<< 16 + third.toNat <<< 8 + fourth.toNat := by
  have highest := first.toNat_lt
  have high := second.toNat_lt
  have low := third.toNat_lt
  have lowest := fourth.toNat_lt
  have shifted (byte : UInt8) {places : Nat} (small : places ≤ 24) :
      byte.toNat <<< places % 2 ^ 32 = byte.toNat <<< places := by
    have bound := byte.toNat_lt
    have scale : 2 ^ places ≤ 2 ^ 24 := Nat.pow_le_pow_right (by decide) small
    apply Nat.mod_eq_of_lt
    rw [Nat.shiftLeft_eq]
    exact Nat.lt_of_le_of_lt (Nat.mul_le_mul (Nat.le_of_lt_succ bound) scale) (by decide)
  simp only [bytesWord, UInt32.toNat_or, UInt32.toNat_shiftLeft, UInt8.toNat_toUInt32]
  rw [show (24 : UInt32).toNat % 32 = 24 from rfl, show (16 : UInt32).toNat % 32 = 16 from rfl,
    show (8 : UInt32).toNat % 32 = 8 from rfl, shifted first (by omega), shifted second (by omega),
    shifted third (by omega), Nat.or_assoc, Nat.or_assoc]
  -- Each byte lies below the place of the one before it, so the words joined by `or` add up.
  rw [← Nat.shiftLeft_add_eq_or_of_lt (i := 8) (by omega),
    ← Nat.shiftLeft_add_eq_or_of_lt (i := 16) (by simp only [Nat.shiftLeft_eq]; omega),
    ← Nat.shiftLeft_add_eq_or_of_lt (i := 24) (by simp only [Nat.shiftLeft_eq]; omega)]
  simp only [Nat.shiftLeft_eq]
  omega

theorem bytesWord_wordBytes (word : UInt32) :
    bytesWord (word >>> 24).toUInt8 (word >>> 16).toUInt8 (word >>> 8).toUInt8 word.toUInt8 =
      word := by
  apply UInt32.toNat_inj.mp
  have bound := word.toNat_lt
  rw [toNat_bytesWord]
  simp only [UInt32.toNat_toUInt8, UInt32.toNat_shiftRight, Nat.shiftRight_eq_div_pow]
  rw [show (24 : UInt32).toNat % 32 = 24 from rfl, show (16 : UInt32).toNat % 32 = 16 from rfl,
    show (8 : UInt32).toNat % 32 = 8 from rfl]
  omega

namespace SyncMarker

/-- A payload that opens with a marker is at least as long as one. -/
theorem length_of_decode? (decoded : decode? payload size = some marker) :
    minimumSize ≤ size ∧ size ≤ payload.length := by
  unfold decode? at decoded
  split at decoded
  · cases decoded
  · rename_i large
    omega

theorem decode?_of_short (short : payload.length < size) : decode? payload size = none :=
  if_pos (.inr short)

/-- Only the bytes of the header count: none after them. -/
theorem decode?_append (header data : Bytes) (exact : header.length = size) :
    decode? (header ++ data) size = decode? header size := by
  unfold decode?
  by_cases small : size < minimumSize
  · simp [small]
  · have enough : ¬ header.length < size := by omega
    have more : ¬ (header ++ data).length < size := by simp; omega
    rw [if_neg (by omega), if_neg (by omega)]
    match header, exact with
    | _ :: _ :: _ :: _ :: _ :: _ :: _ :: _ :: _, _ => rfl
    | [], exact | [_], exact | [_, _], exact | [_, _, _], exact | [_, _, _, _], exact
    | [_, _, _, _, _], exact | [_, _, _, _, _, _], exact | [_, _, _, _, _, _, _], exact =>
      simp [minimumSize] at exact small
      omega

/-- A payload cut somewhere after the header opens with a marker exactly if the whole does. -/
theorem decode?_take (payload : Bytes) (enough : size ≤ length) :
    decode? (payload.take length) size = decode? payload size := by
  by_cases short : payload.length < size
  · have shorter : (payload.take length).length < size := by simp; omega
    rw [decode?_of_short short, decode?_of_short shorter]
  · have header : (payload.take size).length = size := by simp; omega
    have cut : payload.take length = payload.take size ++ (payload.take length).drop size := by
      conv => lhs; rw [← List.take_append_drop size (payload.take length)]
      rw [List.take_take, Nat.min_eq_left enough]
    calc decode? (payload.take length) size
        = decode? (payload.take size) size := by rw [cut, decode?_append _ _ header]
      _ = decode? (payload.take size ++ payload.drop size) size := (decode?_append _ _ header).symm
      _ = decode? payload size := by rw [List.take_append_drop]

/-- What was written as a marker is read as that marker, whatever follows. -/
theorem decode?_encode (marker : SyncMarker) (data : Bytes) (enough : minimumSize ≤ size) :
    decode? (marker.encode size ++ data) size = some marker := by
  have length := marker.encode_length enough
  have large : ¬ (size < minimumSize ∨ (marker.encode size).length < size) := by omega
  -- The first eight bytes are those of the two words; the zeros after them are never looked at.
  have words (rest : Bytes) :
      wordBytes signature ++ wordBytes marker.index ++ rest =
        (signature >>> 24).toUInt8 :: (signature >>> 16).toUInt8 :: (signature >>> 8).toUInt8 ::
          signature.toUInt8 :: (marker.index >>> 24).toUInt8 :: (marker.index >>> 16).toUInt8 ::
            (marker.index >>> 8).toUInt8 :: marker.index.toUInt8 :: rest := rfl
  rw [decode?_append _ _ length]
  unfold decode?
  rw [if_neg large, encode, words]
  simp only [bytesWord_wordBytes, if_true]

end SyncMarker

end FrameStream
