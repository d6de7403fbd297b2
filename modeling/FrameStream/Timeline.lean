/-!
Discrete-event time.

An activity is looked at until it is over or blocked. While it is blocked, time jumps to whatever
comes first: the moment at which the activity can go on by itself, or a scheduled happening. What
is scheduled for one moment takes place together, before the activity is looked at again; at the
moment at which the activity can go on by itself, it goes first.
-/

namespace FrameStream

/-- What one look at an activity finds. -/
inductive Look (activity result : Type) where
  | finished (result : result)
  | ready (activity : activity)
  /-- Nothing more happens before the wake-up time, if there is one, or a change from outside. -/
  | blocked (activity : activity) (wakeUp : Option Nat)

/-- The same find, told in the terms of a wider activity. -/
def Look.map (widen : activity → wider) (convert : result → converted) :
    Look activity result → Look wider converted
  | .finished result => .finished (convert result)
  | .ready activity => .ready (widen activity)
  | .blocked activity wakeUp => .blocked (widen activity) wakeUp

/-- An activity in a world. Times are in whole milliseconds. -/
structure Process (world activity happening result : Type) where
  look : Nat → world → activity → world × Look activity result
  occur : world → happening → world

/-- A world after some time. A result is missing if the activity could never end or took more
looks than it was given. -/
structure Outcome (world result : Type) where
  now : Nat
  world : world
  result : Option result

namespace Process

variable {world activity happening result : Type}

/-- Follows an activity for at most `looks` looks, through scheduled happenings in order. -/
def run (process : Process world activity happening result) :
    (looks : Nat) → (now : Nat) → List (Nat × happening) → world → activity → Outcome world result
  | 0, now, _, world, _ => { now, world, result := none }
  | looks + 1, now, schedule, world, activity =>
    match process.look now world activity with
    | (world, .finished result) => { now, world, result := some result }
    | (world, .ready activity) => process.run looks now schedule world activity
    | (world, .blocked activity wakeUp) =>
      let next := (schedule.head?).map (·.1)
      let goesFirst (wake : Nat) : Bool := next.all (wake ≤ ·)
      match wakeUp.filter goesFirst, next with
      | some wake, _ => process.run looks wake schedule world activity
      | none, some time =>
        let due := schedule.takeWhile (·.1 ≤ time)
        let later := schedule.dropWhile (·.1 ≤ time)
        let world := due.foldl (fun world entry => process.occur world entry.2) world
        process.run looks (max now time) later world activity
      | none, none => { now, world, result := none }

end Process

end FrameStream
