namespace FrameStream

structure Duration where
  nanoseconds : Nat
  deriving DecidableEq, Repr, Inhabited

namespace Duration

def zero : Duration := ⟨0⟩

def ofMilliseconds (count : Nat) : Duration := ⟨count * 1000000⟩

def ofSeconds (count : Nat) : Duration := ⟨count * 1000000000⟩

def isZero (duration : Duration) : Bool := duration.nanoseconds == 0

/-- The least number of whole milliseconds that is no shorter. -/
def milliseconds (duration : Duration) : Nat := (duration.nanoseconds + 999999) / 1000000

/-- A fraction of `places` decimal places without its final zeros, and without its point if
nothing is left. -/
private def fractionText (places fraction : Nat) : String :=
  let digits := (toString fraction).toList
  let padded := List.replicate (places - digits.length) '0' ++ digits
  let kept := (padded.reverse.dropWhile (· == '0')).reverse
  if kept.isEmpty then "" else String.ofList ('.' :: kept)

private def unitText (total places : Nat) (unit : String) : String :=
  let scale := Nat.pow 10 places
  toString (total / scale) ++ fractionText places (total % scale) ++ unit

/-- The largest unit whose whole part is not zero, with the exact rest as a fraction of it. -/
def text (duration : Duration) : String :=
  let total := duration.nanoseconds
  if total ≥ 1000000000 then unitText total 9 "s"
  else if total ≥ 1000000 then unitText total 6 "ms"
  else if total ≥ 1000 then unitText total 3 "µs"
  else toString total ++ "ns"

end Duration

end FrameStream
