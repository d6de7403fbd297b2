import FrameStream.Proofs.ActivationWait
import FrameStream.Proofs.Detours

namespace FrameStream

namespace Process

variable {world activity happening result : Type}
  {process : Process world activity happening result} {before : world} {standing : activity}
  {now wake : Nat} {schedule : List (Nat × happening)}

/-- An activity goes on by itself if nothing happens before. -/
theorem run_wakes (looked : process.look now before standing = (after, .blocked next (some wake)))
    (first : ∀ entry ∈ schedule.head?, wake ≤ entry.1) (looks : Nat) :
    process.run (looks + 1) now schedule before standing =
      process.run looks wake schedule after next := by
  have goesFirst : (some wake).filter (fun wake => (schedule.head?.map (·.1)).all (wake ≤ ·)) =
      some wake := by
    refine Option.filter_some_pos ?_
    cases schedule with
    | nil => rfl
    | cons entry schedule => exact decide_eq_true (first entry rfl)
  rw [run, looked]
  simp only [goesFirst]

/-- What is to happen before that happens first, together with all that is due by then. -/
theorem run_yields {entry : Nat × happening}
    (looked : process.look now before standing = (after, .blocked next (some wake)))
    (sooner : entry.1 < wake) (schedule : List (Nat × happening)) (looks : Nat) :
    ∃ due later, schedule = due ++ later ∧ (∀ other ∈ due, other.1 ≤ entry.1) ∧
      process.run (looks + 1) now (entry :: schedule) before standing =
        process.run looks (max now entry.1) later
          (((entry :: due).map (·.2)).foldl process.occur after) next := by
  have yields : (some wake).filter
      (fun wake => (((entry :: schedule).head?).map (·.1)).all (wake ≤ ·)) = none := by
    refine Option.filter_some_neg ?_
    exact Bool.not_eq_true _ ▸ decide_eq_false (Nat.not_le.mpr sooner)
  let isDue (other : Nat × happening) : Bool := other.1 ≤ entry.1
  have taken : (entry :: schedule).takeWhile isDue = entry :: schedule.takeWhile isDue :=
    List.takeWhile_cons_of_pos (decide_eq_true (Nat.le_refl _))
  have kept : (entry :: schedule).dropWhile isDue = schedule.dropWhile isDue :=
    List.dropWhile_cons_of_pos (decide_eq_true (Nat.le_refl _))
  refine ⟨schedule.takeWhile isDue, schedule.dropWhile isDue,
    List.takeWhile_append_dropWhile.symm, ?_, ?_⟩
  · have all : (schedule.takeWhile isDue).all isDue = true := List.all_takeWhile
    exact fun other member => of_decide_eq_true (List.all_eq_true.mp all other member)
  · rw [run, looked, List.foldl_map, ← taken, ← kept]
    simp only [yields]
    rfl

end Process

def Layer.batchTooLarge (layer : Layer) (requested : UInt16) : StreamError :=
  .invalidConfiguration ("dynamic batch size " ++ toString requested.toNat ++
    " exceeds the maximum of " ++ toString layer.maximumBatchSize.toNat ++ " for layer `" ++
    layer.name ++ "`")

theorem Layer.batchSize_of_lt {layer : Layer} (large : layer.maximumBatchSize < requested) :
    layer.batchSize requested = .error (layer.batchTooLarge requested) := by
  have given : requested ≠ 0 := by
    rintro rfl
    exact absurd large UInt16.not_lt_zero
  rw [batchSize, if_neg given, if_pos large]
  rfl

namespace Session

inductive Request where
  | transfer (operation : Operation)
  | activation (role : Role) (requested : UInt16) (resume : Bool)

namespace Request

def start (session : Session) (now : Nat) : Request → Looked
  | .transfer operation => operation.start session
  | .activation role requested resume => session.startActivation now role requested resume

def run (session : Session) (now : Nat) (schedule : Schedule) : Request → Run
  | .transfer operation => operation.run session now schedule
  | .activation role requested resume => session.activate now role requested resume schedule

theorem run_eq_follow (session : Session) (now : Nat) (schedule : Schedule) (request : Request) :
    request.run session now schedule = follow now schedule (request.start session now) := by
  cases request with
  | transfer operation => exact operation.run_eq_follow session now schedule
  | activation role requested resume => exact session.activate_eq_follow ..

end Request

/-- What is refused, and with which error. A size is checked before the state, and a state before
the size of a batch. -/
inductive Refuses (session : Session) : Request → StreamError → Prop where
  | writeSize : session.input? = some side → frame.length ≠ side.stream.layer.frameSize →
      Refuses session (.transfer (.write frame))
        (.invalidFrameSize side.stream.layer.frameSize frame.length)
  | writeStopped : session.input? = some side → frame.length = side.stream.layer.frameSize →
      side.stream.lifecycle.state ≠ .active →
      Refuses session (.transfer (.write frame)) side.stream.lifecycle.state.interruption
  | readSize : session.output? = some side → size ≠ side.stream.layer.frameSize →
      Refuses session (.transfer (.read size))
        (.invalidFrameSize side.stream.layer.frameSize size)
  | readStopped : session.output? = some side → size = side.stream.layer.frameSize →
      side.stream.lifecycle.state ≠ .active →
      Refuses session (.transfer (.read size)) side.stream.lifecycle.state.interruption
  | alignDisabled : session.output? = some side → side.stream.configuration.syncEnabled = false →
      Refuses session (.transfer .align) side.stream.syncDisabled
  | alignStopped : session.output? = some side → side.stream.configuration.syncEnabled = true →
      side.stream.lifecycle.state ≠ .active →
      Refuses session (.transfer .align) side.stream.lifecycle.state.interruption
  | alreadyActive : session.state? role = some .active →
      Refuses session (.activation role requested resume) .alreadyActivated
  | batchTooLarge : session.state? role = some state → state ≠ .active →
      session.layer? role = some layer → layer.maximumBatchSize < requested →
      Refuses session (.activation role requested resume) (layer.batchTooLarge requested)

section Start

variable {session : Session} {error : StreamError}

theorem write_refused {side : InputSide Float} (present : session.input? = some side)
    (failed : side.stream.beginWrite frame = side.stream.fail error) :
    (Operation.write frame).start session = (session, .finished (.error error)) := by
  change session.onInput _ = _
  simp only [onInput, present, InputSide.write, failed]
  exact storeInput_finish present error

theorem read_refused {side : OutputSide} (present : session.output? = some side)
    (failed : side.stream.beginRead size = side.stream.fail error) :
    (Operation.read size).start session = (session, .finished (.error error)) := by
  change session.onOutput _ = _
  simp only [onOutput, present, OutputSide.read, failed]
  exact storeOutput_finish present error

theorem align_refused {side : OutputSide} (present : session.output? = some side)
    (failed : side.stream.beginAlignment = .error error) :
    Operation.align.start session = (session, .finished (.error error)) := by
  change session.onOutput _ = _
  simp only [onOutput, present, OutputSide.align, failed]
  exact storeOutput_finish present error

theorem activation_refused_input {side : InputSide Float} (present : session.input? = some side)
    (failed : side.stream.beginActivation requested = .error error) (now : Nat) (resume : Bool) :
    session.startActivation now .input requested resume = (session, .finished (.error error)) := by
  simp only [startActivation, onInput, present, InputSide.activate, failed]
  exact storeInput_finish present error

theorem activation_refused_output {side : OutputSide} (present : session.output? = some side)
    (failed : side.stream.beginActivation requested = .error error) (now : Nat) (resume : Bool) :
    session.startActivation now .output requested resume = (session, .finished (.error error)) := by
  simp only [startActivation, onOutput, present, OutputSide.activate, failed]
  exact storeOutput_finish present error

theorem Refuses.start (refuses : Refuses session request error) (now : Nat) :
    request.start session now = (session, .finished (.error error)) := by
  cases refuses with
  | writeSize present other =>
    apply write_refused present
    rw [InputStream.beginWrite, if_pos other]
  | writeStopped present exact stopped =>
    apply write_refused present
    rw [InputStream.beginWrite, if_neg (fun other => other exact),
      Lifecycle.ensureActive_eq_error stopped]
  | readSize present other =>
    apply read_refused present
    rw [OutputStream.beginRead, if_pos other]
  | readStopped present exact stopped =>
    apply read_refused present
    rw [OutputStream.beginRead, if_neg (fun other => other exact),
      Lifecycle.ensureActive_eq_error stopped]
  | alignDisabled present disabled =>
    apply align_refused present
    rw [OutputStream.beginAlignment, if_neg (by simp [disabled])]
  | alignStopped present enabled stopped =>
    apply align_refused present
    rw [OutputStream.beginAlignment, if_pos enabled, Lifecycle.ensureActive_eq_error stopped]
  | @alreadyActive role requested resume active =>
    cases role with
    | input =>
      obtain ⟨side, present, active⟩ := Option.map_eq_some_iff.mp active
      exact activation_refused_input present (if_pos active) now resume
    | output =>
      obtain ⟨side, present, active⟩ := Option.map_eq_some_iff.mp active
      exact activation_refused_output present (if_pos active) now resume
  | @batchTooLarge role state layer requested resume reached stopped found large =>
    have failed := Layer.batchSize_of_lt large
    cases role with
    | input =>
      obtain ⟨side, present, rfl⟩ := Option.map_eq_some_iff.mp reached
      obtain rfl : side.stream.layer = layer := by simpa [layer?, present] using found
      apply activation_refused_input present _ now resume
      rw [InputStream.beginActivation, if_neg stopped, failed]
    | output =>
      obtain ⟨side, present, rfl⟩ := Option.map_eq_some_iff.mp reached
      obtain rfl : side.stream.layer = layer := by simpa [layer?, present] using found
      apply activation_refused_output present _ now resume
      rw [OutputStream.beginActivation, if_neg stopped, failed]

theorem Refuses.run (refuses : Refuses session request error) (now : Nat) (schedule : Schedule) :
    request.run session now schedule =
      { now, world := session, result := some (.error error) } := by
  rw [request.run_eq_follow, refuses.start]
  rfl

end Start

end Session

def InputSide.signalled {quantity : Type} (side : InputSide quantity)
    (requests : List Lifecycle.Signal) : InputSide quantity :=
  { side with stream.lifecycle := side.stream.lifecycle.signalled requests }

def OutputSide.signalled (side : OutputSide) (requests : List Lifecycle.Signal) : OutputSide :=
  { side with stream.lifecycle := side.stream.lifecycle.signalled requests }

namespace Session

theorem input?_occurs (session : Session) (happened : List Happening) :
    (happened.foldl occur session).input? =
      session.input?.map (·.signalled (Happening.signals .input happened)) := by
  induction happened generalizing session with
  | nil => exact Option.map_id'.symm
  | cons happening happened ih =>
    rw [List.foldl_cons, ih]
    obtain ⟨shared, shaper, registry, input?, output?, events⟩ := session
    cases happening with
    | arrival datagram => cases output? <;> rfl
    | readiness isReady => rfl
    | signal role request => cases role <;> cases input? <;> cases output? <;> rfl

theorem output?_occurs (session : Session) (happened : List Happening) :
    (happened.foldl occur session).output? =
      session.output?.map (·.signalled (Happening.signals .output happened)) := by
  induction happened generalizing session with
  | nil => exact Option.map_id'.symm
  | cons happening happened ih =>
    rw [List.foldl_cons, ih]
    obtain ⟨shared, shaper, registry, input?, output?, events⟩ := session
    cases happening with
    | arrival datagram => cases output? <;> rfl
    | readiness isReady => rfl
    | signal role request => cases role <;> cases input? <;> cases output? <;> rfl

/-- What others did in the course of some looks, in order. -/
def happenings
    (glances : List (Process.Glance Session Activity Happening (Except StreamError Reply))) :
    List Happening :=
  glances.flatMap fun glance => glance.happened

theorem happenings_cons
    (glance : Process.Glance Session Activity Happening (Except StreamError Reply))
    (glances : List (Process.Glance Session Activity Happening (Except StreamError Reply))) :
    happenings (glance :: glances) = glance.happened ++ happenings glances :=
  List.flatMap_cons

/-- A look at a wait for the device that leaves all as it was. -/
def IsIdle (role : Role)
    (glance : Process.Glance Session Activity Happening (Except StreamError Reply)) : Prop :=
  glance.after.1 = glance.before ∧
    ∃ now activity, AwaitsDevice role activity ∧
      glance.after = process.look now glance.before activity

inductive Pending (activity : Activity) : Look Activity (Except StreamError Reply) → Prop where
  | ready : Pending activity (.ready activity)
  | blocked : Pending activity (.blocked activity wakeUp)

theorem look_fails {before world : Session} {standing : Activity}
    (awaits : AwaitsDevice role standing) (reached : before.lifecycle? role = some lifecycle)
    (run : process.Interleaves (process.look now before standing) glances
      (world, .finished (.error error)))
    (onwards : ∀ activity wakeUp, AwaitsDevice role activity →
      process.look now before standing = (before, .blocked activity wakeUp) →
      world = (happenings glances).foldl occur before ∧ ∀ glance ∈ glances, IsIdle role glance) :
    (process.look now before standing).1 = before ∧
      world = (happenings glances).foldl occur before ∧ ∀ glance ∈ glances, IsIdle role glance := by
  have resolves := look_resolves awaits reached now
  generalize process.look now before standing = looked at run resolves onwards ⊢
  cases resolves with
  | completed =>
    obtain ⟨_, other⟩ := interleaves_finished run
    cases other
  | overtaken | expired =>
    obtain ⟨rfl, same⟩ := interleaves_finished run
    cases same
    exact ⟨rfl, rfl, fun _ member => absurd member List.not_mem_nil⟩
  | waits _ awaits => exact ⟨rfl, onwards _ _ awaits rfl⟩

/-- A wait for the device that fails has looked at nothing else, and leaves what others made. -/
theorem wait_fails {earlier world : Session} {activity : Activity}
    (run : process.Interleaves (earlier, find) glances (world, .finished (.error error)))
    (pending : Pending activity find) (awaits : AwaitsDevice role activity)
    (present : earlier.lifecycle? role = some lifecycle) :
    world = (happenings glances).foldl occur earlier ∧ ∀ glance ∈ glances, IsIdle role glance := by
  -- By induction on the looks: none but the last ends the wait, and none changes anything.
  generalize starts : (earlier, find) = first at run
  generalize ends : (world, Look.finished (Except.error error)) = last at run
  induction run generalizing earlier find activity lifecycle with
  | done =>
    subst starts
    cases ends
    cases pending
  | look run ih =>
    cases starts
    cases pending
    subst ends
    have ⟨same, left, others⟩ := look_fails awaits present run fun _ _ awaits looked =>
      ih .blocked awaits present looked.symm rfl
    exact ⟨left, List.forall_mem_cons.mpr ⟨⟨same, _, _, awaits, rfl⟩, others⟩⟩
  | @poll blocked _ _ _ _ _ _ happened occurred run ih =>
    cases starts
    cases pending
    subst ends
    subst occurred
    have reached := blocked.lifecycle?_occurs role happened
    rw [present] at reached
    have ⟨same, left, others⟩ := look_fails awaits reached run fun _ _ awaits looked =>
      ih .blocked awaits reached looked.symm rfl
    refine ⟨?_, List.forall_mem_cons.mpr ⟨⟨same, _, _, awaits, rfl⟩, others⟩⟩
    rw [left, happenings_cons, List.foldl_append]

/-- What an activation that fails leaves: all is as others made it meanwhile, and no stream differs
in more than its lifecycle. -/
structure Untouched (role : Role) (session : Session)
    (glances : List (Process.Glance Session Activity Happening (Except StreamError Reply)))
    (world : Session) : Prop where
  world_eq : world = (happenings glances).foldl occur session
  input_eq : world.input? = session.input?.map (·.signalled (calls .input glances))
  output_eq : world.output? = session.output?.map (·.signalled (calls .output glances))
  idle : ∀ glance ∈ glances, IsIdle role glance

theorem signals_happenings (role : Role)
    (glances : List (Process.Glance Session Activity Happening (Except StreamError Reply))) :
    Happening.signals role (happenings glances) = calls role glances := by
  rw [Happening.signals, happenings, List.filterMap_flatMap]
  rfl

/-- An activation that fails leaves all to the others. -/
theorem activation_fails {session world : Session} {now : Nat} {role : Role} {requested : UInt16}
    {resume : Bool}
    (run : process.Interleaves (session.startActivation now role requested resume) glances
      (world, .finished (.error error))) :
    Untouched role session glances world := by
  have ⟨left, idle⟩ : world = (happenings glances).foldl occur session ∧
      ∀ glance ∈ glances, IsIdle role glance := by
    rcases session.startActivation_cases now role requested resume with
      ⟨other, refused⟩ | ⟨activity, lifecycle, awaits, present, waits⟩
    · rw [refused] at run
      obtain ⟨rfl, same⟩ := interleaves_finished run
      cases same
      exact ⟨rfl, fun _ member => absurd member List.not_mem_nil⟩
    · rw [waits] at run
      exact wait_fails run .ready awaits present
  refine ⟨left, ?_, ?_, idle⟩
  · rw [left, input?_occurs, signals_happenings]
  · rw [left, output?_occurs, signals_happenings]

section Timeout

def timeout? (session : Session) : Role → Option Duration
  | .input => session.input?.map (·.stream.timeout)
  | .output => session.output?.map (·.stream.timeout)

def awaitingDevice (batchSize : UInt16) (resume : Bool) (deadline : Nat) : Role → Activity
  | .input => .input (.activating batchSize resume deadline)
  | .output => .output (.activating batchSize resume deadline)

variable {session : Session} {role : Role} {limit : Duration} {now deadline : Nat}

theorem timeout?_occurs (session : Session) (role : Role) (happened : List Happening) :
    (happened.foldl occur session).timeout? role = session.timeout? role := by
  cases role with
  | input =>
    rw [timeout?, input?_occurs, Option.map_map]
    rfl
  | output =>
    rw [timeout?, output?_occurs, Option.map_map]
    rfl

theorem unready_occur (unready : session.shared.isReady = false)
    (other : happening ≠ .readiness true) : (session.occur happening).shared.isReady = false := by
  obtain ⟨shared, shaper, registry, input?, output?, events⟩ := session
  cases happening with
  | arrival datagram => cases output? <;> exact unready
  | readiness isReady =>
    cases isReady with
    | false => rfl
    | true => exact absurd rfl other
  | signal role request => cases role <;> cases input? <;> cases output? <;> exact unready

theorem unready_occurs {happened : List Happening} (unready : session.shared.isReady = false)
    (quiet : .readiness true ∉ happened) :
    (happened.foldl occur session).shared.isReady = false := by
  induction happened generalizing session with
  | nil => exact unready
  | cons happening happened ih =>
    refine ih (unready_occur unready ?_) fun member => quiet (.tail _ member)
    exact fun same => quiet (same ▸ .head _)

/-- Only an active stream or too large a batch makes an activation refused. -/
theorem stopped_of_accepted (found : session.state? role = some state)
    (known : session.layer? role = some layer)
    (accepted : ∀ error, ¬ Refuses session (.activation role requested resume) error) :
    state ≠ .active ∧ requested ≤ layer.maximumBatchSize := by
  have stopped : state ≠ .active := by
    rintro rfl
    exact accepted _ (.alreadyActive found)
  refine ⟨stopped, UInt16.not_lt.mp fun large => ?_⟩
  exact accepted _ (.batchTooLarge found stopped known large)

theorem startActivation_waits {resume : Bool} (reached : session.timeout? role = some limit)
    (accepted : ∀ error, ¬ Refuses session (.activation role requested resume) error) (now : Nat) :
    ∃ batchSize, session.startActivation now role requested resume =
      (session, .ready (awaitingDevice batchSize resume (now + limit.milliseconds) role)) := by
  cases role with
  | input =>
    obtain ⟨side, present, rfl⟩ := Option.map_eq_some_iff.mp reached
    have found : session.state? .input = some side.stream.lifecycle.state := by
      rw [state?, present]
      rfl
    have known : session.layer? .input = some side.stream.layer := by
      rw [layer?, present]
      rfl
    obtain ⟨stopped, within⟩ := stopped_of_accepted found known accepted
    obtain ⟨batchSize, sound⟩ := Layer.batchSize_of_le within
    refine ⟨batchSize, ?_⟩
    simp only [startActivation, onInput, present, InputSide.activate, InputStream.beginActivation,
      if_neg stopped, sound]
    exact storeInput_same present _
  | output =>
    obtain ⟨side, present, rfl⟩ := Option.map_eq_some_iff.mp reached
    have found : session.state? .output = some side.stream.lifecycle.state := by
      rw [state?, present]
      rfl
    have known : session.layer? .output = some side.stream.layer := by
      rw [layer?, present]
      rfl
    obtain ⟨stopped, within⟩ := stopped_of_accepted found known accepted
    obtain ⟨batchSize, sound⟩ := Layer.batchSize_of_le within
    refine ⟨batchSize, ?_⟩
    simp only [startActivation, onOutput, present, OutputSide.activate,
      OutputStream.beginActivation, if_neg stopped, sound]
    exact storeOutput_same present _

/-- While the device is not ready, a look at the wait finds nothing but the time. -/
theorem look_unready (unready : session.shared.isReady = false)
    (reached : session.timeout? role = some limit) (batchSize : UInt16) (resume : Bool)
    (deadline now : Nat) :
    process.look now session (awaitingDevice batchSize resume deadline role) =
      (session, if deadline ≤ now then .finished (.error (activationTimeout limit))
        else .blocked (awaitingDevice batchSize resume deadline role) (some deadline)) := by
  cases role with
  | input =>
    obtain ⟨side, present, rfl⟩ := Option.map_eq_some_iff.mp reached
    change session.onInput _ = _
    rw [onInput, present]
    change session.storeInput (InputSide.lookActivating ..) = _
    rw [InputSide.lookActivating, unready, if_neg Bool.false_ne_true]
    split
    · exact storeInput_same present _
    · exact storeInput_same present _
  | output =>
    obtain ⟨side, present, rfl⟩ := Option.map_eq_some_iff.mp reached
    change session.onOutput _ = _
    rw [onOutput, present]
    change session.storeOutput (OutputSide.lookActivating ..) = _
    rw [OutputSide.lookActivating, unready, if_neg Bool.false_ne_true]
    split
    · exact storeOutput_same present _
    · exact storeOutput_same present _

theorem run_expired (unready : session.shared.isReady = false)
    (reached : session.timeout? role = some limit) (batchSize : UInt16) (resume : Bool)
    (passed : deadline ≤ now) (looks : Nat) (schedule : Schedule) :
    process.run (looks + 1) now schedule session (awaitingDevice batchSize resume deadline role) =
      { now, world := session, result := some (.error (activationTimeout limit)) } := by
  rw [Process.run, look_unready unready reached batchSize resume, if_pos passed]

/-- A wait during which the device never becomes ready is over when its time is up. -/
theorem run_expires {schedule : Schedule} (unready : session.shared.isReady = false)
    (reached : session.timeout? role = some limit) (batchSize : UInt16) (resume : Bool)
    (early : now ≤ deadline)
    (quiet : ∀ entry ∈ schedule, entry.1 < deadline → entry.2 ≠ .readiness true)
    (enough : schedule.length + 2 ≤ looks) :
    let run := process.run looks now schedule session (awaitingDevice batchSize resume deadline role)
    run.now = deadline ∧ run.result = some (.error (activationTimeout limit)) := by
  -- By induction on the looks: each but the last takes a happening off the schedule.
  induction looks generalizing session now schedule with
  | zero => cases enough
  | succ looks ih =>
    by_cases passed : deadline ≤ now
    · rw [run_expired unready reached batchSize resume passed]
      exact ⟨Nat.le_antisymm early passed, rfl⟩
    · have looked := look_unready unready reached batchSize resume deadline now
      rw [if_neg passed] at looked
      by_cases first : ∀ entry ∈ schedule.head?, deadline ≤ entry.1
      · obtain ⟨looks, rfl⟩ : ∃ fewer, looks = fewer + 1 := ⟨looks - 1, by omega⟩
        rw [Process.run_wakes looked first,
          run_expired unready reached batchSize resume (Nat.le_refl _)]
        exact ⟨rfl, rfl⟩
      · obtain ⟨entry, rest, rfl, sooner⟩ : ∃ entry rest, schedule = entry :: rest ∧
            entry.1 < deadline := by
          cases schedule with
          | nil => exact absurd nofun first
          | cons entry rest =>
            refine ⟨entry, rest, rfl, Nat.not_le.mp fun late => first ?_⟩
            rintro _ ⟨⟩
            exact late
        obtain ⟨due, later, rfl, soon, yields⟩ :=
          Process.run_yields looked sooner rest looks
        have stillUnready : (((entry :: due).map (·.2)).foldl occur session).shared.isReady =
            false := by
          refine unready_occurs unready fun member => ?_
          obtain ⟨other, member, ready⟩ := List.mem_map.mp member
          refine quiet other ?_ ?_ ready
          · exact List.mem_append_left later member
          · cases member with
            | head => exact sooner
            | tail _ member => exact Nat.lt_of_le_of_lt (soon other member) sooner
        rw [yields]
        refine ih stillUnready ?_ ?_ ?_ ?_
        · exact (timeout?_occurs ..).trans reached
        · omega
        · exact fun other member => quiet other (.tail _ (List.mem_append_right due member))
        · simp only [List.length_cons, List.length_append] at enough
          omega

theorem follow_interleaves {started : Looked} {schedule : Schedule}
    (found : (follow now schedule started).result = some result) :
    ∃ glances, process.Interleaves started glances
      ((follow now schedule started).world, .finished result) := by
  obtain ⟨session, finished | ready | blocked⟩ := started
  · cases found
    exact ⟨[], .done⟩
  · obtain ⟨glances, run⟩ := Process.interleaves_of_run found
    exact ⟨_, .look run⟩
  · obtain ⟨glances, run⟩ := Process.interleaves_of_run found
    have undisturbed : ([] : List Happening).foldl process.occur session = session := rfl
    exact ⟨_, .poll undisturbed run⟩

/-- An activation that is not refused, but does not see the device ready before its time is up. -/
structure InVain (session : Session) (now : Nat) (role : Role) (requested : UInt16) (resume : Bool)
    (limit : Duration) (schedule : Schedule) : Prop where
  timeout : session.timeout? role = some limit
  accepted : ∀ error, ¬ Refuses session (.activation role requested resume) error
  unready : session.shared.isReady = false
  quiet : ∀ entry ∈ schedule, entry.1 < now + limit.milliseconds → entry.2 ≠ .readiness true

theorem InVain.expires (vain : InVain session now role requested resume limit schedule)
    (enough : schedule.length + 2 ≤ looksLimit) :
    let run := session.activate now role requested resume schedule
    run.now = now + limit.milliseconds ∧ run.result = some (.error (activationTimeout limit)) := by
  obtain ⟨batchSize, starts⟩ := startActivation_waits vain.timeout vain.accepted now
  rw [activate_eq_follow, starts]
  exact run_expires vain.unready vain.timeout batchSize resume (Nat.le_add_right _ _) vain.quiet
    enough

end Timeout

/-- What is refused changes nothing. A write or a read of the wrong size, an operation of a stream
that is not active, an alignment without markers and an activation of an active stream or with too
large a batch are over at their start: they are never looked at, so that no limiter is asked and
nothing is sent or taken, and the session is what it was. An activation that fails later looked at
nothing but the device, and leaves what others made of the session; among these is every one that
waits in vain, and it gives up when its time is up. -/
theorem refusals_change_nothing (session : Session) (now : Nat) :
    (∀ request error, Refuses session request error →
      request.start session now = (session, .finished (.error error)) ∧
        ∀ schedule, request.run session now schedule =
          { now, world := session, result := some (.error error) }) ∧
      ∀ role requested resume,
        (∀ glances world error,
          process.Interleaves (session.startActivation now role requested resume) glances
            (world, .finished (.error error)) →
          Untouched role session glances world) ∧
        ∀ limit schedule, InVain session now role requested resume limit schedule →
          schedule.length + 2 ≤ looksLimit →
          let run := session.activate now role requested resume schedule
          run.now = now + limit.milliseconds ∧
            run.result = some (.error (activationTimeout limit)) ∧
            ∃ glances, process.Interleaves (session.startActivation now role requested resume)
              glances (run.world, .finished (.error (activationTimeout limit))) := by
  refine ⟨?_, ?_⟩
  · intro request error refuses
    exact ⟨refuses.start now, refuses.run now⟩
  · intro role requested resume
    refine ⟨fun _ _ _ run => activation_fails run, ?_⟩
    intro limit schedule vain enough
    obtain ⟨late, failed⟩ := vain.expires enough
    rw [activate_eq_follow] at failed
    exact ⟨late, failed, follow_interleaves failed⟩

/-- An input stream that was never activated, beside an output stream that is in the middle of
things. The device is not ready. -/
private def lopsided : Session :=
  let feed : Layer := ⟨"feed", .hostToDevice, 4, 1⟩
  let input : InputStream :=
    { layer := feed
      configuration := (InputConfiguration.ofParameters {} feed).toOption.get rfl
      lifecycle := { name := "feed" }, timeout := defaultTimeout, batchSize := 1 }
  let drain : Layer := ⟨"drain", .deviceToHost, 4, 1⟩
  let output : OutputStream :=
    { layer := drain
      configuration := (OutputConfiguration.ofParameters {} drain).toOption.get rfl
      lifecycle := { name := "drain", isActivated := true }, timeout := defaultTimeout
      batchSize := 1, leftover := [7, 8], lastIndex := 5, isHunting := true }
  { shared := ⟨(Channel.inMemory 1472).inject .host [1, 2, 3, 4], false⟩
    shaper := ⟨false, fun _ => none⟩
    input? := some ⟨input, .scripted [.zeroRate], ⟨.device, []⟩⟩
    output? := some ⟨output, ⟨.host, []⟩⟩ }

private def abortedWait : Run := lopsided.activate 0 .input 0 false [(1, .signal .input .abort)]

/-- A read of the wrong size in the middle of things, and an activation that is aborted while it
waits in vain. -/
theorem refusals_change_nothing_of_abort :
    (Request.transfer (.read 3)).start lopsided 0 =
        (lopsided, .finished (.error (.invalidFrameSize 4 3))) ∧
      abortedWait.now = 10000 ∧
      abortedWait.result = some (.error (activationTimeout defaultTimeout)) ∧
      ∃ glances, Untouched .input lopsided glances abortedWait.world := by
  have ⟨refused, fails⟩ := refusals_change_nothing lopsided 0
  have vain : InVain lopsided 0 .input 0 false defaultTimeout [(1, .signal .input .abort)] := {
    timeout := rfl
    accepted := by
      intro error refuses
      cases refuses with
      | alreadyActive active => cases active
      | batchTooLarge _ _ _ large => exact absurd large UInt16.not_lt_zero
    unready := rfl
    quiet := by
      rintro _ (_ | ⟨_, ⟨⟩⟩) - ⟨⟩ }
  have ⟨untouched, expires⟩ := fails .input 0 false
  obtain ⟨late, failed, glances, run⟩ := expires _ _ vain (by decide)
  exact ⟨(refused _ _ (.readSize rfl (by decide))).1, late, failed, glances, untouched _ _ _ run⟩

end Session

end FrameStream
