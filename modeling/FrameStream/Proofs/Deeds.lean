import FrameStream.Proofs.Likeness

namespace FrameStream

instance resultDecidableEq {Error Value : Type} [DecidableEq Error] [DecidableEq Value] :
    DecidableEq (Except Error Value)
  | .ok value, .ok other => decidable_of_iff (value = other) (by simp)
  | .error error, .error other => decidable_of_iff (error = other) (by simp)
  | .ok _, .error _ | .error _, .ok _ => .isFalse nofun

inductive Deed where
  | activate (role : Role) (requested : UInt16) (resume : Bool) (schedule : Schedule)
  | write (frame : Bytes) (schedule : Schedule)
  | read (size? : Option Nat) (schedule : Schedule)
  | align (schedule : Schedule)
  | flush
  | setTimeout (role : Role) (timeout : Duration)
  | setScript (role : Role) (script : List TransportAct)
  | setChunkLimit (limit : Nat)
  | closePeer
  /-- What others can do while an operation is at work, they can also do between two of them. -/
  | occur (happening : Happening)
  | pass (milliseconds : Nat)

namespace Session

/-- Something that takes no time and does not fail. -/
def done (now : Nat) (session : Session) : Run :=
  { now, world := session, result := some (.ok .done) }

def perform (session : Session) (now : Nat) : Deed → Run
  | .activate role requested resume schedule =>
    session.activate now role requested resume schedule
  | .write frame schedule => session.write now frame schedule
  | .read size? schedule => session.read now size? schedule
  | .align schedule => session.align now schedule
  | .flush => done now session.flush
  | .setTimeout role timeout => done now (session.setTimeout role timeout)
  | .setScript role script => done now (session.setScript role script)
  | .setChunkLimit limit => done now (session.setChunkLimit limit)
  | .closePeer => done now session.closePeer
  | .occur happening => done now (session.occur happening)
  | .pass milliseconds => done (now + milliseconds) session

/-- What a list of deeds comes to: when and where it ends, and with which results. It is over unless
it came to an operation that never ends. -/
structure Course where
  now : Nat
  world : Session
  results : List (Except StreamError Reply) := []
  isOver : Bool := true

/-- Does one thing after another, from `now` on. -/
def course (session : Session) (now : Nat) : List Deed → Course
  | [] => { now, world := session }
  | deed :: deeds =>
    let run := session.perform now deed
    match run.result with
    | none => { now := run.now, world := run.world, isOver := false }
    | some result =>
      let rest := run.world.course run.now deeds
      { rest with results := result :: rest.results }

variable {sized : Bool} {excess : OutputStatistics} {session other : Session}

/-- Courses that take the same time and have the same results, and end alike. -/
structure Course.Alike (sized : Bool) (excess : OutputStatistics) (first second : Course) :
    Prop where
  like : Like sized excess first.world second.world
  now_eq : second.now = first.now
  results_eq : second.results = first.results
  isOver_eq : second.isOver = first.isOver

section Alike

variable (alike : Like sized excess session other) (now : Nat)
include alike

theorem flush_like : Like sized excess session.flush other.flush := by
  obtain ⟨shared, shaper, registry, input?, output?, events⟩ := session
  obtain ⟨_, _, _, input?', output?', events'⟩ := other
  obtain ⟨rfl, rfl, rfl, input, output⟩ := alike
  dsimp only at input output
  cases input with
  | none => exact ⟨rfl, rfl, rfl, .none, output⟩
  | some like =>
    obtain ⟨rebatch, allowed⟩ := like
    exact ⟨rfl, rfl, rfl, .some (.intro rebatch allowed), output⟩

theorem map_input_like {change : InputSide Float → InputSide Float}
    (commutes : ∀ (side : InputSide Float) (rebatch : UInt16 → UInt16),
      change { side with stream := side.stream.varied rebatch } =
        { change side with stream := (change side).stream.varied rebatch }) :
    Option.Rel (InputSide.Like sized) (session.input?.map change) (other.input?.map change) := by
  have input := alike.input
  generalize session.input? = first at input ⊢
  generalize other.input? = second at input ⊢
  cases input with
  | none => exact .none
  | some like =>
    obtain ⟨rebatch, allowed⟩ := like
    refine .some ?_
    rw [commutes]
    exact .intro rebatch allowed

theorem map_output_like {change : OutputSide → OutputSide}
    (commutes : ∀ (side : OutputSide) (rebatch : UInt16 → UInt16),
      change { side with stream := side.stream.varied rebatch excess } =
        { change side with stream := (change side).stream.varied rebatch excess }) :
    Option.Rel (OutputSide.Like sized excess) (session.output?.map change)
      (other.output?.map change) := by
  have output := alike.output
  generalize session.output? = first at output ⊢
  generalize other.output? = second at output ⊢
  cases output with
  | none => exact .none
  | some like =>
    obtain ⟨rebatch, allowed⟩ := like
    refine .some ?_
    rw [commutes]
    exact .intro rebatch allowed

theorem setTimeout_like (role : Role) (timeout : Duration) :
    Like sized excess (session.setTimeout role timeout) (other.setTimeout role timeout) := by
  cases role with
  | input =>
    exact { alike with input := map_input_like alike fun _ _ => rfl }
  | output =>
    exact { alike with output := map_output_like alike fun _ _ => rfl }

theorem setScript_like (role : Role) (script : List TransportAct) :
    Like sized excess (session.setScript role script) (other.setScript role script) := by
  cases role with
  | input =>
    exact { alike with input := map_input_like alike fun _ _ => rfl }
  | output =>
    exact { alike with output := map_output_like alike fun _ _ => rfl }

/-- What is done with sessions that are alike takes the same time, and comes to the same. -/
theorem perform_alike (deed : Deed) :
    let first := session.perform now deed
    let second := other.perform now deed
    Like sized excess first.world second.world ∧ second.now = first.now ∧
      second.result = first.result := by
  cases deed with
  | activate role requested resume schedule =>
    cases role with
    | input =>
      refine follow_alike (onInput_agree alike fun input rebatch allowed => ?_) now schedule
      rw [alike.shared_eq]
      exact InputSide.activate_agree allowed now session.shared input requested resume
    | output =>
      refine follow_alike (onOutput_agree alike fun output rebatch allowed => ?_) now schedule
      rw [alike.shared_eq]
      exact OutputSide.activate_agree allowed now session.shared output requested resume
  | write frame schedule =>
    refine follow_alike (onInput_agree alike fun input rebatch allowed => ?_) now schedule
    rw [alike.shared_eq]
    exact InputSide.write_agree allowed session.shared input frame
  | read size? schedule =>
    refine follow_alike (onOutput_agree alike fun output rebatch allowed => ?_) now schedule
    rw [alike.shared_eq]
    exact OutputSide.read_agree allowed session.shared output _
  | align schedule =>
    refine follow_alike (onOutput_agree alike fun output rebatch allowed => ?_) now schedule
    rw [alike.shared_eq]
    exact OutputSide.align_agree allowed session.shared output
  | flush => exact ⟨flush_like alike, rfl, rfl⟩
  | setTimeout role timeout => exact ⟨setTimeout_like alike role timeout, rfl, rfl⟩
  | setScript role script => exact ⟨setScript_like alike role script, rfl, rfl⟩
  | setChunkLimit limit =>
    exact ⟨{ alike with shared_eq := by simp only [perform, done, setChunkLimit, alike.shared_eq] },
      rfl, rfl⟩
  | closePeer =>
    exact ⟨{ alike with shared_eq := by simp only [perform, done, closePeer, alike.shared_eq] },
      rfl, rfl⟩
  | occur happening => exact ⟨occur_like alike happening, rfl, rfl⟩
  | pass milliseconds => exact ⟨alike, rfl, rfl⟩

end Alike

theorem course_alike (alike : Like sized excess session other) (now : Nat) (deeds : List Deed) :
    Course.Alike sized excess (session.course now deeds) (other.course now deeds) := by
  induction deeds generalizing session other now with
  | nil => exact ⟨alike, rfl, rfl, rfl⟩
  | cons deed deeds ih =>
    obtain ⟨next, later, same⟩ := perform_alike alike now deed
    rw [course, course]
    dsimp only
    rw [same, later]
    cases (session.perform now deed).result with
    | none => exact ⟨next, rfl, rfl, rfl⟩
    | some result =>
      have rest := ih next (session.perform now deed).now
      exact ⟨rest.like, rest.now_eq, congrArg (result :: ·) rest.results_eq, rest.isOver_eq⟩

end Session

end FrameStream
