import FrameStream.Bytes
import FrameStream.Text.Record

/-!
Sync markers: the fixed-size header that opens the first payload of a marked frame.

A marker of `size` bytes is a signature word, an index word and zeros; the zeros are reserved and
no reader looks at them. `encode` writes a marker, `appendTo` writes it into a buffer, and `decode?`
recognises one at the start of a payload.
-/

namespace FrameStream

structure SyncMarker where
  index : UInt32
  deriving DecidableEq, Repr, Inhabited

namespace SyncMarker

def signature : UInt32 := 0x5A5AA5A5

/-- The size of the signature and the index together, below which there is no marker. -/
def minimumSize : Nat := 8

/-- What a reader holds for the last index before it has seen any marker. -/
def unobserved : UInt32 := 0xFFFFFFFF

/-- The index expected next. Indices wrap, so the successor of `unobserved` is the first index. -/
def successor (index : UInt32) : UInt32 := index + 1

def encode (marker : SyncMarker) (size : Nat) : Bytes :=
  wordBytes signature ++ wordBytes marker.index ++ List.replicate (size - minimumSize) 0

/-- Writes a marker in `size` bytes behind what a buffer holds already. -/
def appendTo (marker : SyncMarker) (buffer : Bytes) (size : Nat) : Bytes :=
  let signed := buffer ++ wordBytes signature
  let indexed := signed ++ wordBytes marker.index
  indexed ++ List.replicate (size - minimumSize) 0

/-- Recognises a marker of `size` bytes at the start of a payload. -/
def decode? (payload : Bytes) (size : Nat) : Option SyncMarker :=
  if size < minimumSize ∨ payload.length < size then none
  else
    match payload with
    | s₀ :: s₁ :: s₂ :: s₃ :: i₀ :: i₁ :: i₂ :: i₃ :: _ =>
      if bytesWord s₀ s₁ s₂ s₃ = signature then some ⟨bytesWord i₀ i₁ i₂ i₃⟩ else none
    | _ => none

def debugText (marker : SyncMarker) : String :=
  Text.record "SyncMarker" [("index", toString marker.index.toNat)] false

theorem successor_unobserved : successor unobserved = 0 := rfl

theorem encode_length (marker : SyncMarker) {size : Nat} (enough : minimumSize ≤ size) :
    (marker.encode size).length = size := by
  simp only [encode, List.length_append, wordBytes_length, List.length_replicate]
  simp only [minimumSize] at *
  omega

theorem appendTo_eq (marker : SyncMarker) (buffer : Bytes) (size : Nat) :
    marker.appendTo buffer size = buffer ++ marker.encode size := by
  simp only [appendTo, encode, List.append_assoc]

end SyncMarker

end FrameStream
