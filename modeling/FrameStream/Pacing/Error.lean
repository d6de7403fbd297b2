namespace FrameStream

inductive RateError where
  /-- A single request is larger than any grant can be. -/
  | exceedsBurst (demand capacity : Nat)
  /-- Limiting was asked for at the rate zero. -/
  | zeroRate
  /-- The wait that would be needed is longer than any duration. -/
  | endlessWait
  deriving DecidableEq, Repr, Inhabited

/-- The name by which logs call an error. -/
def RateError.title : RateError → String
  | .exceedsBurst .. => "ExceedsBurst"
  | .zeroRate => "ZeroRate"
  | .endlessWait => "EndlessWait"

def RateError.message : RateError → String
  | .exceedsBurst demand capacity =>
    s!"rate limiter demand of {demand} bytes exceeds burst capacity of {capacity} bytes"
  | .zeroRate => "rate limiter requires a non-zero rate"
  | .endlessWait => "rate limiter wait is longer than any duration"

end FrameStream
