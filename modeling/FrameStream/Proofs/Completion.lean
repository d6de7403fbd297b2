import FrameStream.Session

/-!
How operations end. An operation that nobody disturbs comes to the same result however many looks
it is given, if they are enough; so whether and how it ends can be said without counting. And
whatever is scheduled meanwhile, what each look and each happening keeps true is true all along.
-/

namespace FrameStream

namespace Process

variable {World Activity Happening Result : Type}
  {process : Process World Activity Happening Result}

/-- An activity ends, undisturbed, at some time in some world with some result; told from what a
look at it has just found. -/
inductive Ends (process : Process World Activity Happening Result) :
    Nat → World × Look Activity Result → Nat → World → Result → Prop where
  | finished : Ends process now (world, .finished result) now world result
  | ready : Ends process now (process.look now world activity) last final result →
      Ends process now (world, .ready activity) last final result
  | woken : Ends process wake (process.look wake world activity) last final result →
      Ends process now (world, .blocked activity (some wake)) last final result

theorem Ends.unique (left : process.Ends now looked last final result)
    (right : process.Ends now looked last' final' result') :
    last = last' ∧ final = final' ∧ result = result' := by
  induction left with
  | finished =>
    cases right
    exact ⟨rfl, rfl, rfl⟩
  | ready _ ih =>
    cases right with
    | ready right => exact ih right
  | woken _ ih =>
    cases right with
    | woken right => exact ih right

/-- What a number of looks come to is how the activity ends. -/
theorem ends_of_run (found : (process.run looks now [] world activity).result = some result) :
    process.Ends now (process.look now world activity) (process.run looks now [] world activity).now
      (process.run looks now [] world activity).world result := by
  induction looks generalizing now world activity with
  | zero => cases found
  | succ looks ih =>
    rw [run] at found ⊢
    cases looked : process.look now world activity with
    | mk next find =>
      cases find with
      | finished reached =>
        rw [looked] at found
        cases found
        exact .finished
      | ready activity =>
        rw [looked] at found
        exact .ready (ih found)
      | blocked activity wakeUp =>
        rw [looked] at found
        cases wakeUp with
        | none => cases found
        | some wake => exact .woken (ih found)

theorem Ends.run (ends : process.Ends now (process.look now world activity) last final result) :
    ∃ looks, process.run looks now [] world activity =
      { now := last, world := final, result := some result } := by
  generalize found : process.look now world activity = looked at ends
  induction ends generalizing world activity with
  | finished => exact ⟨1, by rw [Process.run, found]⟩
  | ready _ ih =>
    obtain ⟨looks, run⟩ := ih rfl
    exact ⟨looks + 1, by rw [Process.run, found]; exact run⟩
  | woken _ ih =>
    obtain ⟨looks, run⟩ := ih rfl
    exact ⟨looks + 1, by rw [Process.run, found]; exact run⟩

/-- Whether and how an activity ends can be said without counting looks. -/
theorem ends_iff_run :
    process.Ends now (process.look now world activity) last final result ↔
      ∃ looks, process.run looks now [] world activity =
        { now := last, world := final, result := some result } := by
  constructor
  · exact Ends.run
  · rintro ⟨looks, run⟩
    have found : (process.run looks now [] world activity).result = some result := by rw [run]
    have ends := ends_of_run found
    rwa [run] at ends

/-- A find after which an activity is where it should be, or over as it should be. -/
inductive Satisfies (holds : World → Activity → Prop) (ended : World → Result → Prop) :
    World × Look Activity Result → Prop where
  | finished : ended world result → Satisfies holds ended (world, .finished result)
  | ready : holds world activity → Satisfies holds ended (world, .ready activity)
  | blocked : holds world activity → Satisfies holds ended (world, .blocked activity wakeUp)

theorem occurs_holds {holds : World → Activity → Prop} {due : List (Nat × Happening)}
    (occurs : ∀ entry ∈ due, ∀ world activity, holds world activity →
      holds (process.occur world entry.2) activity) (start : holds world activity) :
    holds (due.foldl (fun world entry => process.occur world entry.2) world) activity := by
  induction due generalizing world with
  | nil => exact start
  | cons entry due ih =>
    have ⟨first, later⟩ := List.forall_mem_cons.mp occurs
    exact ih later (first world activity start)

/-- What every look and everything that is scheduled keep true is true all along. -/
theorem run_satisfies {holds : World → Activity → Prop} {ended : World → Result → Prop}
    (looks : ∀ now world activity, holds world activity →
      Satisfies holds ended (process.look now world activity))
    (occurs : ∀ entry ∈ schedule, ∀ world activity, holds world activity →
      holds (process.occur world entry.2) activity)
    (start : holds world activity)
    (found : (process.run count now schedule world activity).result = some result) :
    ended (process.run count now schedule world activity).world result := by
  induction count generalizing now schedule world activity with
  | zero => cases found
  | succ count ih =>
    have looked := looks now world activity start
    rw [run] at found ⊢
    cases find : process.look now world activity with
    | mk next look =>
      rw [find] at looked found
      cases looked with
      | finished reached =>
        cases found
        exact reached
      | ready holding => exact ih occurs holding found
      | @blocked _ activity wakeUp holding =>
        simp only at found ⊢
        generalize wakeUp.filter _ = first at found ⊢
        generalize schedule.head?.map _ = coming at found ⊢
        cases first with
        | some wake => exact ih occurs holding found
        | none =>
          cases coming with
          | none => cases found
          | some time =>
            refine ih (fun entry later => occurs entry ?_) (occurs_holds ?_ holding) found
            · exact (List.dropWhile_sublist _).subset later
            · exact fun entry due => occurs entry (List.takeWhile_subset _ due)

end Process

namespace Session

theorem follow_satisfies {holds : Session → Activity → Prop}
    {ended : Session → Except StreamError Reply → Prop} {schedule : Schedule}
    (looks : ∀ now session activity, holds session activity →
      Process.Satisfies holds ended (process.look now session activity))
    (occurs : ∀ entry ∈ schedule, ∀ session activity, holds session activity →
      holds (process.occur session entry.2) activity)
    (start : Process.Satisfies holds ended started)
    (found : (follow now schedule started).result = some result) :
    ended (follow now schedule started).world result := by
  cases start with
  | finished reached =>
    cases found
    exact reached
  | ready holding => exact Process.run_satisfies looks occurs holding found
  | blocked holding => exact Process.run_satisfies looks occurs holding found

/-- What the owner of both streams does next. -/
inductive Turn where
  | write (frame : Bytes)
  /-- Reads into a buffer of the size of a frame. -/
  | read
  deriving DecidableEq, Repr

/-- A turn as it starts. -/
def Turn.start (session : Session) : Turn → Looked
  | .write frame => session.onInput fun input => input.write session.shared frame
  | .read =>
    session.onOutput fun output => output.read session.shared output.stream.layer.frameSize

/-- Turns that are taken one after another, with their results. -/
inductive Plays : Nat → Session → List Turn → List (Except StreamError Reply) → Nat → Session →
    Prop where
  | done : Plays now session [] [] now session
  | turn : process.Ends now (turn.start session) later next result →
      Plays later next turns results last final →
      Plays now session (turn :: turns) (result :: results) last final

theorem Plays.append (first : Plays now session turns results middle between)
    (second : Plays middle between more others last final) :
    Plays now session (turns ++ more) (results ++ others) last final := by
  induction first with
  | done => exact second
  | turn ends _ ih => exact .turn ends (ih second)

theorem Plays.unique (left : Plays now session turns results last final)
    (right : Plays now session turns results' last' final') :
    results = results' ∧ last = last' ∧ final = final' := by
  induction left generalizing results' with
  | done =>
    cases right
    exact ⟨rfl, rfl, rfl⟩
  | turn ends _ ih =>
    cases right with
    | turn ends' right =>
      obtain ⟨rfl, rfl, rfl⟩ := ends.unique ends'
      obtain ⟨same, rest⟩ := ih right
      exact ⟨congrArg _ same, rest⟩

/-- The turns of a run that come first are a run of their own. -/
theorem Plays.prefix_of_append (plays : Plays now session (turns ++ more) results last final) :
    ∃ some others middle between, results = some ++ others ∧
      Plays now session turns some middle between ∧
      Plays middle between more others last final := by
  induction turns generalizing now session results with
  | nil => exact ⟨[], results, now, session, rfl, .done, plays⟩
  | cons turn turns ih =>
    cases plays with
    | turn ends plays =>
      obtain ⟨some, others, middle, between, rfl, first, rest⟩ := ih plays
      exact ⟨_, others, middle, between, rfl, .turn ends first, rest⟩

end Session

end FrameStream
