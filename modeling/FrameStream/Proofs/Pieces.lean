import FrameStream.Bytes

namespace FrameStream

/-- How many pieces of the given size hold so many bytes. -/
def pieceCount (size length : Nat) : Nat := (length + size - 1) / size

/-- The pieces of a byte string: the piece at an index starts at that multiple of the size. -/
def pieces (size : Nat) (bytes : Bytes) : List Bytes :=
  (List.range (pieceCount size bytes.length)).map fun index =>
    (bytes.drop (index * size)).take size

theorem pieceCount_zero (positive : 0 < size) : pieceCount size 0 = 0 :=
  Nat.div_eq_of_lt (by omega)

theorem pieceCount_of_le (nonempty : 0 < length) (within : length ≤ size) :
    pieceCount size length = 1 :=
  Nat.div_eq_of_lt_le (by omega) (by omega)

theorem pieceCount_of_lt (positive : 0 < size) (longer : size < length) :
    pieceCount size length = pieceCount size (length - size) + 1 := by
  have shifted : length + size - 1 = length - size + size - 1 + size := by omega
  rw [pieceCount, shifted, Nat.add_div_right _ positive]
  rfl

theorem pieceCount_mul (positive : 0 < size) (count : Nat) :
    pieceCount size (size * count) = count := by
  rw [pieceCount, Nat.add_sub_assoc positive, Nat.mul_add_div positive,
    Nat.div_eq_of_lt (by omega), Nat.add_zero]

/-- Another byte needs another piece exactly if the pieces so far are whole. -/
theorem pieceCount_succ (positive : 0 < size) (length : Nat) :
    pieceCount size (length + 1) =
      pieceCount size length + if size ∣ length then 1 else 0 := by
  have next : pieceCount size (length + 1) = length / size + 1 := by
    rw [pieceCount, show length + 1 + size - 1 = length + size by omega,
      Nat.add_div_right _ positive]
  by_cases whole : size ∣ length
  · obtain ⟨count, rfl⟩ := whole
    rw [next, pieceCount_mul positive, Nat.mul_div_cancel_left _ positive,
      if_pos (Nat.dvd_mul_right _ _)]
  · have rest : 0 < length % size :=
      Nat.pos_of_ne_zero fun none => whole (Nat.dvd_of_mod_eq_zero none)
    have begun : length + size - 1 = (length % size - 1) + size * (length / size + 1) := by
      have parts := Nat.mod_add_div length size
      rw [Nat.mul_succ]
      omega
    have smaller : (length % size - 1) / size = 0 :=
      Nat.div_eq_of_lt (Nat.lt_of_le_of_lt (Nat.sub_le _ _) (Nat.mod_lt _ positive))
    rw [next, if_neg whole, pieceCount, begun, Nat.add_mul_div_left _ _ positive, smaller]
    omega

theorem pieces_nil (positive : 0 < size) : pieces size [] = [] := by
  simp [pieces, pieceCount_zero positive]

/-- A byte string that is not empty and fits into a piece is its only piece. -/
theorem pieces_of_le (nonempty : bytes ≠ []) (within : bytes.length ≤ size) :
    pieces size bytes = [bytes] := by
  have count := pieceCount_of_le (List.length_pos_iff.mpr nonempty) within
  simp [pieces, count, List.take_of_length_le within]

theorem pieces_of_lt (positive : 0 < size) (longer : size < bytes.length) :
    pieces size bytes = bytes.take size :: pieces size (bytes.drop size) := by
  have later (index : Nat) :
      (bytes.drop ((index + 1) * size)).take size =
        ((bytes.drop size).drop (index * size)).take size := by
    rw [List.drop_drop, Nat.succ_mul, Nat.add_comm]
  simp only [pieces, pieceCount_of_lt positive longer, List.range_succ_eq_map, List.map_cons,
    List.map_map, List.length_drop, Nat.zero_mul, List.drop_zero]
  congr 1
  exact List.map_congr_left fun index _ => later index

theorem pieces_of_ne_nil (positive : 0 < size) (nonempty : bytes ≠ []) :
    pieces size bytes = bytes.take size :: pieces size (bytes.drop size) := by
  by_cases within : bytes.length ≤ size
  · rw [pieces_of_le nonempty within, List.take_of_length_le within, List.drop_of_length_le within,
      pieces_nil positive]
  · exact pieces_of_lt positive (Nat.not_le.mp within)

@[simp]
theorem length_pieces (size : Nat) (bytes : Bytes) :
    (pieces size bytes).length = pieceCount size bytes.length := by
  simp [pieces]

theorem flatten_pieces (positive : 0 < size) (bytes : Bytes) :
    (pieces size bytes).flatten = bytes := by
  by_cases empty : bytes = []
  · simp [empty, pieces_nil positive]
  · have longer := List.length_pos_iff.mpr empty
    rw [pieces_of_ne_nil positive empty, List.flatten_cons, flatten_pieces positive,
      List.take_append_drop]
termination_by bytes.length
decreasing_by simp; omega

theorem pieces_bounds (positive : 0 < size) (member : piece ∈ pieces size bytes) :
    0 < piece.length ∧ piece.length ≤ size := by
  by_cases empty : bytes = []
  · simp [empty, pieces_nil positive] at member
  · have longer := List.length_pos_iff.mpr empty
    rw [pieces_of_ne_nil positive empty] at member
    rcases List.mem_cons.mp member with rfl | later
    · rw [List.length_take]
      omega
    · exact pieces_bounds positive later
termination_by bytes.length
decreasing_by simp; omega

example : pieces 3 [1, 2, 3, 4, 5, 6, 7] = [[1, 2, 3], [4, 5, 6], [7]] := rfl

end FrameStream
