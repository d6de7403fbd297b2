namespace FrameStream

abbrev Bytes := List UInt8

/-- The four bytes of a word, most significant first. -/
def wordBytes (word : UInt32) : Bytes :=
  [(word >>> 24).toUInt8, (word >>> 16).toUInt8, (word >>> 8).toUInt8, word.toUInt8]

/-- The word whose bytes, most significant first, are the four given ones. -/
def bytesWord (first second third fourth : UInt8) : UInt32 :=
  (first.toUInt32 <<< 24) ||| (second.toUInt32 <<< 16) ||| (third.toUInt32 <<< 8) |||
    fourth.toUInt32

@[simp]
theorem wordBytes_length (word : UInt32) : (wordBytes word).length = 4 := rfl

end FrameStream
