import FrameStream.Proofs.MarkerCodec

/-!
Steps that stop a program when they are not defined: a subtraction below zero, a remainder by zero,
a slice out of range, an assertion that fails. Where each is defined it gives what one expects, and
the marker codec, taken step by step, never stops on a header that is large enough.
-/

namespace FrameStream

inductive Fault where
  | underflow
  | remainderByZero
  | outOfRange
  | lengthMismatch
  | assertion
  deriving DecidableEq, Repr

namespace Guarded

def difference (minuend subtrahend : Nat) : Except Fault Nat :=
  if subtrahend ≤ minuend then .ok (minuend - subtrahend) else .error .underflow

def remainder (dividend divisor : UInt64) : Except Fault UInt64 :=
  if divisor = 0 then .error .remainderByZero else .ok (dividend % divisor)

def assert (condition : Prop) [Decidable condition] : Except Fault Unit :=
  if condition then .ok () else .error .assertion

/-- The bytes from `start` to before `stop`. -/
def slice (bytes : Bytes) (start stop : Nat) : Except Fault Bytes :=
  if start ≤ stop ∧ stop ≤ bytes.length then .ok ((bytes.take stop).drop start)
  else .error .outOfRange

def overwrite (bytes : Bytes) (start stop : Nat) (source : Bytes) : Except Fault Bytes :=
  if start ≤ stop ∧ stop ≤ bytes.length then
    if source.length = stop - start then .ok (bytes.take start ++ source ++ bytes.drop stop)
    else .error .lengthMismatch
  else .error .outOfRange

def advance (bytes : Bytes) (count : Nat) : Except Fault Bytes :=
  if count ≤ bytes.length then .ok (bytes.drop count) else .error .outOfRange

def word : Bytes → Except Fault (UInt32 × Bytes)
  | first :: second :: third :: fourth :: rest => .ok (bytesWord first second third fourth, rest)
  | _ => .error .outOfRange

variable {bytes source : Bytes} {start stop count : Nat}

theorem difference_of_le (le : subtrahend ≤ minuend) :
    difference minuend subtrahend = .ok (minuend - subtrahend) := if_pos le

theorem remainder_of_ne_zero (positive : divisor ≠ 0) :
    remainder dividend divisor = .ok (dividend % divisor) := if_neg positive

theorem assert_of {condition : Prop} [Decidable condition] (holds : condition) :
    assert condition = .ok () := if_pos holds

theorem slice_of_le (le : start ≤ stop) (within : stop ≤ bytes.length) :
    slice bytes start stop = .ok ((bytes.take stop).drop start) := if_pos ⟨le, within⟩

theorem slice_front (within : stop ≤ bytes.length) :
    slice bytes 0 stop = .ok (bytes.take stop) := if_pos ⟨Nat.zero_le stop, within⟩

theorem slice_back (within : start ≤ bytes.length) :
    slice bytes start bytes.length = .ok (bytes.drop start) := by
  rw [slice_of_le within (Nat.le_refl _), List.take_length]

theorem overwrite_within (le : start ≤ stop) (within : stop ≤ bytes.length)
    (exact : source.length = stop - start) :
    ∃ result, overwrite bytes start stop source = .ok result ∧ result.length = bytes.length ∧
      result.take stop = bytes.take start ++ source := by
  have front : (bytes.take start ++ source).length = stop := by
    rw [List.length_append, List.length_take_of_le (Nat.le_trans le within), exact]
    omega
  refine ⟨bytes.take start ++ source ++ bytes.drop stop, ?_, ?_, ?_⟩
  · rw [overwrite, if_pos ⟨le, within⟩, if_pos exact]
  · rw [List.length_append, front, List.length_drop]
    omega
  · rw [List.take_append_of_le_length (Nat.le_of_eq front.symm), ← front, List.take_length]

theorem advance_of_le (within : count ≤ bytes.length) :
    advance bytes count = .ok (bytes.drop count) := if_pos within

end Guarded

namespace SyncMarker

open Guarded

/-- Writes a marker, which takes at least its least size. -/
def encodeGuarded (marker : SyncMarker) (size : Nat) : Except Fault Bytes := do
  assert (minimumSize ≤ size)
  return marker.encode size

def decodeGuarded (payload : Bytes) (size : Nat) : Except Fault (Option SyncMarker) :=
  if size < minimumSize ∨ payload.length < size then return none
  else do
    let header ← slice payload 0 minimumSize
    let (first, header) ← word header
    if first ≠ signature then return none
    let (index, _) ← word header
    return some ⟨index⟩

theorem encodeGuarded_eq (marker : SyncMarker) (enough : minimumSize ≤ size) :
    marker.encodeGuarded size = .ok (marker.encode size) := by
  rw [encodeGuarded, assert_of enough]
  rfl

/-- Both words are there wherever they are looked at. -/
theorem decodeGuarded_eq (payload : Bytes) (size : Nat) :
    decodeGuarded payload size = .ok (decode? payload size) := by
  unfold decodeGuarded decode?
  split
  · rfl
  · rename_i large
    have long : minimumSize ≤ payload.length := by omega
    rw [slice_front long]
    match payload, long with
    | s₀ :: s₁ :: s₂ :: s₃ :: i₀ :: i₁ :: i₂ :: i₃ :: _, _ =>
      simp only [minimumSize, List.take_succ_cons, List.take_zero, word, bind, Except.bind]
      split
      · rfl
      · rename_i same
        rw [if_pos (Decidable.of_not_not same)]
        rfl
    | [], long | [_], long | [_, _], long | [_, _, _], long | [_, _, _, _], long
    | [_, _, _, _, _], long | [_, _, _, _, _, _], long | [_, _, _, _, _, _, _], long =>
      simp [minimumSize] at long

end SyncMarker

end FrameStream
