import FrameStream.Proofs.Conduct

namespace FrameStream

/-- Exchanges, each with the moment at which it was over. -/
abbrev TimedExchanges := List (Instant × Exchange)

namespace InputStream

structure TimedState where
  asked : Instant
  now : Instant
  state : WriteState

/-- What a write and its exchanges come to while time passes. -/
inductive TimedWrites : TimedState → TimedExchanges → TimedState → Prop where
  | done : TimedWrites timed [] timed
  | pass : now ≤ later → TimedWrites ⟨asked, later, state⟩ record last →
      TimedWrites ⟨asked, now, state⟩ record last
  | reserve :
      TimedWrites ⟨now, now, (stream.granted payload later answer).value⟩ record last →
      TimedWrites ⟨asked, now, (stream, .waiting (.asking payload later))⟩
        ((now, .reserve payload.length answer) :: record) last
  /-- A wait is over when its time is up. -/
  | rest : asked + wait.nanoseconds ≤ now →
      TimedWrites ⟨asked, now, (stream.rested payload later (.ok ())).value⟩ record last →
      TimedWrites ⟨asked, now, (stream, .waiting (.resting wait payload later))⟩
        ((now, .rest wait (.ok ())) :: record) last
  /-- A wait is cut short only because the stream is stopped. -/
  | cutShort : stream.lifecycle.ensureActive = .error error →
      TimedWrites ⟨asked, now, (stream.rested payload later (.error error)).value⟩ record last →
      TimedWrites ⟨asked, now, (stream, .waiting (.resting wait payload later))⟩
        ((now, .rest wait (.error error)) :: record) last
  | send :
      TimedWrites ⟨asked, now, (stream.delivered payload sent later outcome).value⟩ record last →
      TimedWrites ⟨asked, now, (stream, .waiting (.sending payload sent later))⟩
        ((now, .send (payload.drop sent) outcome) :: record) last
  | signal :
      TimedWrites ⟨asked, now, ((stream.signal request).value, progress)⟩ record last →
      TimedWrites ⟨asked, now, (stream, progress)⟩ ((now, .signal request) :: record) last

namespace TimedWrites

theorem append (first : TimedWrites start record middle) (second : TimedWrites middle more last) :
    TimedWrites start (record ++ more) last := by
  induction first with
  | done => exact second
  | pass forward _ ih => exact .pass forward (ih second)
  | reserve _ ih => exact .reserve (ih second)
  | rest passed _ ih => exact .rest passed (ih second)
  | cutShort stopped _ ih => exact .cutShort stopped (ih second)
  | send _ ih => exact .send (ih second)
  | signal _ ih => exact .signal (ih second)

/-- Without its times it is a write. -/
theorem writes (run : TimedWrites start record last) :
    Writes start.state (record.map Prod.snd) last.state := by
  induction run with
  | done => exact .done
  | pass _ _ ih => exact ih
  | reserve _ ih => exact .reserve ih
  | rest _ _ ih => exact .rest ih
  | cutShort _ _ ih => exact .rest ih
  | send _ ih => exact .send ih
  | signal _ ih => exact .signal ih

end TimedWrites

end InputStream

namespace Process

variable {World Activity Happening Result : Type}
  {process : Process World Activity Happening Result}

/-- A find after which an activity is where it should be at this time, or over as it should be. It
is not to be looked at again before this time. -/
inductive SatisfiesAt (holds : Nat → World → Activity → Prop) (ended : Nat → World → Result → Prop)
    (now : Nat) : World × Look Activity Result → Prop where
  | finished : ended now world result → SatisfiesAt holds ended now (world, .finished result)
  | ready : holds now world activity → SatisfiesAt holds ended now (world, .ready activity)
  | blocked : holds now world activity → (∀ wake ∈ wakeUp, now ≤ wake) →
      SatisfiesAt holds ended now (world, .blocked activity wakeUp)

/-- What every look, everything that happens and the passing of time keep true is true all along. -/
theorem run_satisfiesAt {holds : Nat → World → Activity → Prop}
    {ended : Nat → World → Result → Prop} {schedule : List (Nat × Happening)}
    (looks : ∀ now world activity, holds now world activity →
      SatisfiesAt holds ended now (process.look now world activity))
    (passes : ∀ now later world activity, now ≤ later → holds now world activity →
      holds later world activity)
    (occurs : ∀ now happening world activity, holds now world activity →
      holds now (process.occur world happening) activity)
    (start : holds now world activity)
    (found : (process.run count now schedule world activity).result = some result) :
    ended (process.run count now schedule world activity).now
      (process.run count now schedule world activity).world result := by
  induction count generalizing now schedule world activity with
  | zero => cases found
  | succ count ih =>
    have looked := looks now world activity start
    rw [run] at found ⊢
    cases find : process.look now world activity with
    | mk next look =>
      rw [find] at looked found
      cases looked with
      | finished reached =>
        cases found
        exact reached
      | ready holding => exact ih holding found
      | @blocked _ activity wakeUp holding forward =>
        simp only at found ⊢
        cases first : wakeUp.filter _ with
        | some wake =>
          rw [first] at found
          have later := forward wake (Option.filter_eq_some_iff.mp first).1
          exact ih (passes now wake next activity later holding) found
        | none =>
          rw [first] at found
          cases coming : schedule.head?.map Prod.fst with
          | none =>
            rw [coming] at found
            cases found
          | some time =>
            rw [coming] at found
            have waited : holds (max now time) next activity :=
              passes now _ next activity (Nat.le_max_left _ _) holding
            have kept : ∀ entry ∈ schedule.takeWhile (·.1 ≤ time), ∀ world activity,
                holds (max now time) world activity →
                holds (max now time) (process.occur world entry.2) activity :=
              fun entry _ world activity => occurs _ entry.2 world activity
            exact ih (occurs_holds kept waited) found

end Process

theorem instantOf_le (forward : now ≤ later) : instantOf now ≤ instantOf later :=
  Nat.mul_le_mul_right _ forward

theorem le_instantOf_add (now : Nat) (wait : Duration) :
    instantOf now + wait.nanoseconds ≤ instantOf (now + wait.milliseconds) := by
  change now * 1000000 + wait.nanoseconds ≤
    (now + (wait.nanoseconds + 999999) / 1000000) * 1000000
  omega

namespace InputSide

open InputStream (TimedState TimedWrites)

variable {quantity : Type}

/-- A wait that has begun is not over before its time is up. -/
def Dated (asked : Instant) : WritePoint → Call → Prop
  | .resting wait _ _, .due deadline => asked + wait.nanoseconds ≤ instantOf deadline
  | _, _ => True

inductive FindsAt (asked : Instant) (now : Nat) :
    Progress WritePoint (Except StreamError Unit) → InputLook → Prop where
  | finished : FindsAt asked now (.finished result) (.finished result)
  | ready : Dated asked point call →
      FindsAt asked now (.waiting point) (.ready (.writing point call))
  | blocked : Dated asked point call → (∀ wake ∈ wakeUp, now ≤ wake) →
      FindsAt asked now (.waiting point) (.blocked (.writing point call) wakeUp)

def GoesOnAt (start : TimedState) (now : Nat) (looked : Looked quantity) : Prop :=
  ∃ record asked progress,
    TimedWrites start record ⟨asked, instantOf now, (looked.value.2.1.stream, progress)⟩ ∧
      FindsAt asked now progress looked.value.2.2

theorem follow_goesOnAt (now : Nat) (shared : Shared) (input : InputSide quantity)
    (run : TimedWrites start record ⟨asked, instantOf now, step.value⟩) :
    GoesOnAt start now (follow shared input step) := by
  obtain ⟨⟨stream, progress⟩, events⟩ := step
  cases progress with
  | waiting point => exact ⟨record, asked, .waiting point, run, .ready (by cases point <;> trivial)⟩
  | finished result => exact ⟨record, asked, .finished result, run, .finished⟩

theorem lookResting_goesOnAt (now : Nat) (shared : Shared) (input : InputSide quantity)
    (wait : Duration) (payload : Bytes) (later : List Bytes) (call : Call)
    (past : asked ≤ instantOf now) (dated : Dated asked (.resting wait payload later) call) :
    GoesOnAt ⟨asked, instantOf now, (input.stream, .waiting (.resting wait payload later))⟩ now
      (lookResting now shared input wait payload later call) := by
  rw [lookResting]
  cases ready : input.stream.lifecycle.ensureActive with
  | error error => exact follow_goesOnAt now shared input (.cutShort ready .done)
  | ok _ =>
    have begun : Dated asked (.resting wait payload later) (.due (now + wait.milliseconds)) :=
      Nat.le_trans (Nat.add_le_add_right past _) (le_instantOf_add now wait)
    have waits : ∀ wake ∈ some (now + wait.milliseconds), now ≤ wake := by
      rintro _ ⟨⟩
      exact Nat.le_add_right _ _
    cases call with
    | unmade => exact ⟨[], asked, _, .done, .blocked begun waits⟩
    | endless => exact ⟨[], asked, _, .done, .blocked begun waits⟩
    | due deadline =>
      dsimp only
      by_cases passed : deadline ≤ now
      · rw [if_pos passed]
        exact follow_goesOnAt now shared input
          (.rest (Nat.le_trans dated (instantOf_le passed)) .done)
      · rw [if_neg passed]
        refine ⟨[], asked, _, .done, .blocked dated ?_⟩
        rintro _ ⟨⟩
        exact Nat.le_of_not_le passed

theorem send_waits {port : Port} {channel : Channel} {limit : Duration}
    (pending : (port.send channel now limit payload call).2.2 = .pending next) :
    ∀ wake ∈ next.wakeUp, now ≤ wake := by
  cases call with
  | unmade =>
    rw [Port.send] at pending
    dsimp only at pending
    split at pending <;> cases pending
    rintro _ ⟨⟩
    exact Nat.le_add_right _ _
  | due deadline =>
    rw [Port.send] at pending
    split at pending
    · cases pending
    · cases pending
      rintro _ ⟨⟩
      omega
  | endless =>
    cases pending
    exact nofun

theorem lookSending_goesOnAt (now : Nat) (shared : Shared) (input : InputSide quantity)
    (payload : Bytes) (sent : Nat) (later : List Bytes) (call : Call) :
    GoesOnAt ⟨asked, instantOf now, (input.stream, .waiting (.sending payload sent later))⟩ now
      (lookSending now shared input payload sent later call) := by
  rw [lookSending]
  cases input.stream.lifecycle.ensureActive with
  | error error => exact follow_goesOnAt now shared input (.send .done)
  | ok _ =>
    dsimp only
    cases outcome : (input.port.send shared.channel now input.stream.timeout
        (payload.drop sent) call).2.2 with
    | answered answer => exact follow_goesOnAt now _ _ (.send .done)
    | pending next => exact ⟨[], asked, _, .done, .blocked trivial (send_waits outcome)⟩

theorem look_goesOnAt [TokenQuantity quantity] (now : Nat) (shared : Shared)
    (input : InputSide quantity) (point : WritePoint) (call : Call)
    (past : asked ≤ instantOf now) (dated : Dated asked point call) :
    GoesOnAt ⟨asked, instantOf now, (input.stream, .waiting point)⟩ now
      (input.look now shared (.writing point call)) := by
  cases point with
  | asking payload later => exact follow_goesOnAt now _ _ (.reserve .done)
  | resting wait payload later =>
    exact lookResting_goesOnAt now shared input wait payload later call past dated
  | sending payload sent later =>
    exact lookSending_goesOnAt now shared input payload sent later call

end InputSide

theorem InputStream.TimedWrites.asked_le (run : TimedWrites start record last)
    (past : start.asked ≤ start.now) : last.asked ≤ last.now := by
  induction run with
  | done => exact past
  | pass forward _ ih => exact ih (Nat.le_trans past forward)
  | reserve _ ih => exact ih (Nat.le_refl _)
  | rest _ _ ih => exact ih past
  | cutShort _ _ ih => exact ih past
  | send _ ih => exact ih past
  | signal _ ih => exact ih past

namespace Session

open InputStream (TimedState TimedWrites)

def WritingAt (start : TimedState) (now : Nat) (session : Session) (activity : Activity) : Prop :=
  ∃ side point call record asked, session.input? = some side ∧
    activity = .input (.writing point call) ∧ InputSide.Dated asked point call ∧
    TimedWrites start record ⟨asked, instantOf now, (side.stream, .waiting point)⟩

/-- A session in which a write has come to its end in time. -/
def WroteAt (start : TimedState) (now : Nat) (session : Session)
    (result : Except StreamError Reply) : Prop :=
  ∃ side record asked outcome, session.input? = some side ∧
    result = outcome.map (fun _ => .done) ∧
    TimedWrites start record ⟨asked, instantOf now, (side.stream, .finished outcome)⟩

theorem storeInput_satisfiesAt (session : Session) (looked : InputSide.Looked Float)
    (run : TimedWrites start record timed) (goesOn : InputSide.GoesOnAt timed now looked) :
    Process.SatisfiesAt (WritingAt start) (WroteAt start) now (session.storeInput looked) := by
  obtain ⟨⟨shared, side, found⟩, events⟩ := looked
  obtain ⟨more, asked, progress, rest, finds⟩ := goesOn
  have run := run.append rest
  cases finds with
  | finished => exact .finished ⟨side, _, asked, _, rfl, rfl, run⟩
  | ready dated => exact .ready ⟨side, _, _, _, asked, rfl, rfl, dated, run⟩
  | blocked dated waits => exact .blocked ⟨side, _, _, _, asked, rfl, rfl, dated, run⟩ waits

theorem occur_writingAt (now : Nat) (happening : Happening) (session : Session)
    (activity : Activity) (writing : WritingAt start now session activity) :
    WritingAt start now (process.occur session happening) activity := by
  obtain ⟨side, point, call, record, asked, found, rfl, dated, run⟩ := writing
  change WritingAt start now (session.occur happening) _
  cases happening with
  | arrival datagram =>
    refine ⟨side, point, call, record, asked, ?_, rfl, dated, run⟩
    rw [occur, inject]
    split <;> exact found
  | readiness isReady => exact ⟨side, point, call, record, asked, found, rfl, dated, run⟩
  | signal role request =>
    cases role with
    | input =>
      exact ⟨_, point, call, _, asked, signal_input found request, rfl, dated,
        run.append (.signal .done)⟩
    | output =>
      exact ⟨side, point, call, record, asked,
        (session.input?_signal_output request).trans found, rfl, dated, run⟩

theorem follow_satisfiesAt {holds : Nat → Session → Activity → Prop}
    {ended : Nat → Session → Except StreamError Reply → Prop} {schedule : Schedule}
    (looks : ∀ now session activity, holds now session activity →
      Process.SatisfiesAt holds ended now (process.look now session activity))
    (passes : ∀ now later session activity, now ≤ later → holds now session activity →
      holds later session activity)
    (occurs : ∀ now happening session activity, holds now session activity →
      holds now (process.occur session happening) activity)
    (start : Process.SatisfiesAt holds ended now started)
    (found : (follow now schedule started).result = some result) :
    ended (follow now schedule started).now (follow now schedule started).world result := by
  cases start with
  | finished reached =>
    cases found
    exact reached
  | ready holding => exact Process.run_satisfiesAt looks passes occurs holding found
  | blocked holding => exact Process.run_satisfiesAt looks passes occurs holding found

/-- Every write of a session that ends is a write in time, whatever happens meanwhile. -/
theorem write_wroteAt {session : Session} {schedule : Schedule}
    (present : session.input? = some side)
    (found : (session.write now frame schedule).result = some result) :
    WroteAt ⟨instantOf now, instantOf now, (side.stream.beginWrite frame).value⟩
      (session.write now frame schedule).now (session.write now frame schedule).world result := by
  let start : TimedState := ⟨instantOf now, instantOf now, (side.stream.beginWrite frame).value⟩
  have looks (now : Nat) (session : Session) (activity : Activity)
      (writing : WritingAt start now session activity) :
      Process.SatisfiesAt (WritingAt start) (WroteAt start) now
        (process.look now session activity) := by
    obtain ⟨side, point, call, record, asked, found, rfl, dated, run⟩ := writing
    change Process.SatisfiesAt _ _ _ (session.onInput _)
    rw [onInput, found]
    exact session.storeInput_satisfiesAt _ run
      (side.look_goesOnAt now session.shared point call (run.asked_le (Nat.le_refl _)) dated)
  have passes (now later : Nat) (session : Session) (activity : Activity) (forward : now ≤ later)
      (writing : WritingAt start now session activity) :
      WritingAt start later session activity := by
    obtain ⟨side, point, call, record, asked, found, rfl, dated, run⟩ := writing
    exact ⟨side, point, call, _, asked, found, rfl, dated,
      run.append (.pass (instantOf_le forward) .done)⟩
  have begun : Process.SatisfiesAt (WritingAt start) (WroteAt start) now
      (session.onInput fun input => input.write session.shared frame) := by
    rw [onInput, present]
    exact session.storeInput_satisfiesAt _ .done (InputSide.follow_goesOnAt now _ _ .done)
  exact follow_satisfiesAt looks passes occur_writingAt begun found

end Session

end FrameStream
