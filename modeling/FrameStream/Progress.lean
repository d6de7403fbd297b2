namespace FrameStream

/-- An operation that waits at some position for an answer, or is over. -/
inductive Progress (position result : Type) where
  | waiting (position : position)
  | finished (result : result)
  deriving Repr

end FrameStream
