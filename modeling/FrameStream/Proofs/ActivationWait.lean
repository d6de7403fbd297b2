import FrameStream.Proofs.Activation
import FrameStream.Proofs.Interruption

/-!
Activations that wait for the device. The wait looks at the device and at the time, and not at the
lifecycle: what others ask of the stream meanwhile only shows in what the wait leaves. If it ends
because the device is ready, the stream is active whatever was asked before; if the time is up, the
stream is as the others left it.
-/

namespace FrameStream

theorem InputStream.completeActivation_of_active {stream : InputStream}
    (active : stream.lifecycle.state = .active) (batchSize : UInt16) (resume : Bool) :
    stream.completeActivation batchSize resume = .error .alreadyActivated := by
  rw [completeActivation, Lifecycle.activate, if_pos active]
  rfl

theorem OutputStream.completeActivation_of_active {stream : OutputStream}
    (active : stream.lifecycle.state = .active) (batchSize : UInt16) (resume : Bool) :
    stream.completeActivation batchSize resume = .error .alreadyActivated := by
  rw [completeActivation, Lifecycle.activate, if_pos active]
  rfl

theorem Lifecycle.signalled_stopped {lifecycle : Lifecycle} (stopped : lifecycle.state ≠ .active)
    (uncleared : .clearAbort ∉ requests) : (lifecycle.signalled requests).state ≠ .active := by
  induction requests generalizing lifecycle with
  | nil => exact stopped
  | cons request requests ih =>
    refine ih ?_ fun member => uncleared (.tail _ member)
    exact lifecycle.signal_stops fun cleared => uncleared (cleared ▸ .head _)

namespace Session

def calls (role : Role)
    (glances : List (Process.Glance Session Activity Happening (Except StreamError Reply))) :
    List Lifecycle.Signal :=
  glances.flatMap fun glance => Happening.signals role glance.happened

theorem calls_cons (role : Role)
    (glance : Process.Glance Session Activity Happening (Except StreamError Reply))
    (glances : List (Process.Glance Session Activity Happening (Except StreamError Reply))) :
    calls role (glance :: glances) =
      Happening.signals role glance.happened ++ calls role glances :=
  List.flatMap_cons

def startActivation (session : Session) (now : Nat) (role : Role) (requested : UInt16)
    (resume : Bool) : Looked :=
  match role with
  | .input => session.onInput fun input => input.activate now session.shared requested resume
  | .output => session.onOutput fun output => output.activate now session.shared requested resume

theorem activate_eq_follow (session : Session) (now : Nat) (role : Role) (requested : UInt16)
    (resume : Bool) (schedule : Schedule) :
    session.activate now role requested resume schedule =
      follow now schedule (session.startActivation now role requested resume) := by
  cases role <;> rfl

inductive AwaitsDevice : Role → Activity → Prop where
  | input {batchSize : UInt16} :
      AwaitsDevice .input (.input (.activating batchSize resume deadline))
  | output {batchSize : UInt16} :
      AwaitsDevice .output (.output (.activating batchSize resume deadline))

/-- What a look at an activation that waits comes to. -/
inductive Resolves (role : Role) (session : Session) : Looked → Prop where
  | completed : session.shared.isReady = true → session.state? role ≠ some .active →
      next.state? role = some .active → Resolves role session (next, .finished (.ok .done))
  | overtaken : session.state? role = some .active →
      Resolves role session (session, .finished (.error .alreadyActivated))
  | expired (limit : Duration) : session.shared.isReady = false →
      Resolves role session (session, .finished (.error (activationTimeout limit)))
  | waits : session.shared.isReady = false → AwaitsDevice role activity →
      Resolves role session (session, .blocked activity wakeUp)

section Looks

variable {session : Session} {role : Role} {activity : Activity}

theorem storeInput_same {side : InputSide Float} (present : session.input? = some side)
    (found : InputSide.InputLook) :
    session.storeInput ⟨(session.shared, side, found), []⟩ =
      (session, found.map .input (·.map fun _ => .done)) := by
  obtain ⟨shared, shaper, registry, input?, output?, events⟩ := session
  cases present
  exact Prod.ext (congrArg (Session.mk _ _ _ _ _) (List.append_nil _)) rfl

theorem storeOutput_same {side : OutputSide} (present : session.output? = some side)
    (found : OutputSide.OutputLook) :
    session.storeOutput ⟨(session.shared, side, found), []⟩ =
      (session, found.map .output id) := by
  obtain ⟨shared, shaper, registry, input?, output?, events⟩ := session
  cases present
  exact Prod.ext (congrArg (Session.mk _ _ _ _ _) (List.append_nil _)) rfl

theorem look_activating_input {batchSize : UInt16} (now : Nat)
    (present : session.input? = some side) (resume : Bool) (deadline : Nat) :
    Resolves .input session
      (process.look now session (.input (.activating batchSize resume deadline))) := by
  have reached : session.state? .input = some side.stream.lifecycle.state := by
    rw [state?, present]
    rfl
  change Resolves _ _ (session.onInput _)
  rw [onInput, present]
  change Resolves _ _ (session.storeInput (InputSide.lookActivating ..))
  unfold InputSide.lookActivating
  cases ready : session.shared.isReady with
  | true =>
    rw [if_pos rfl]
    by_cases active : side.stream.lifecycle.state = .active
    · rw [InputStream.completeActivation_of_active active]
      change Resolves _ _ (session.storeInput ⟨(session.shared, side, .finished _), []⟩)
      rw [storeInput_same present]
      exact .overtaken (reached.trans (congrArg some active))
    · obtain ⟨events, activation⟩ :=
        InputStream.completeActivation_of_stopped active batchSize resume
      rw [activation]
      refine .completed ready (fun other => active (Option.some.inj (reached.symm.trans other))) ?_
      cases resume <;> rfl
  | false =>
    rw [if_neg Bool.false_ne_true]
    split
    · change Resolves _ _ (session.storeInput ⟨(session.shared, side, .finished _), []⟩)
      rw [storeInput_same present]
      exact .expired _ ready
    · rw [storeInput_same present]
      exact .waits ready .input

theorem look_activating_output {batchSize : UInt16} (now : Nat)
    (present : session.output? = some side) (resume : Bool) (deadline : Nat) :
    Resolves .output session
      (process.look now session (.output (.activating batchSize resume deadline))) := by
  have reached : session.state? .output = some side.stream.lifecycle.state := by
    rw [state?, present]
    rfl
  change Resolves _ _ (session.onOutput _)
  rw [onOutput, present]
  change Resolves _ _ (session.storeOutput (OutputSide.lookActivating ..))
  unfold OutputSide.lookActivating
  cases ready : session.shared.isReady with
  | true =>
    rw [if_pos rfl]
    by_cases active : side.stream.lifecycle.state = .active
    · rw [OutputStream.completeActivation_of_active active]
      change Resolves _ _ (session.storeOutput ⟨(session.shared, side, .finished _), []⟩)
      rw [storeOutput_same present]
      exact .overtaken (reached.trans (congrArg some active))
    · obtain ⟨events, activation⟩ :=
        OutputStream.completeActivation_of_stopped active batchSize resume
      rw [activation]
      refine .completed ready (fun other => active (Option.some.inj (reached.symm.trans other))) ?_
      cases resume <;> rfl
  | false =>
    rw [if_neg Bool.false_ne_true]
    split
    · change Resolves _ _ (session.storeOutput ⟨(session.shared, side, .finished _), []⟩)
      rw [storeOutput_same present]
      exact .expired _ ready
    · rw [storeOutput_same present]
      exact .waits ready .output

/-- A wait that is looked at ends, or goes on as it is. -/
theorem look_resolves (awaits : AwaitsDevice role activity)
    (present : session.lifecycle? role = some lifecycle) (now : Nat) :
    Resolves role session (process.look now session activity) := by
  cases awaits with
  | input =>
    obtain ⟨side, present, _⟩ := Option.map_eq_some_iff.mp present
    exact look_activating_input now present _ _
  | output =>
    obtain ⟨side, present, _⟩ := Option.map_eq_some_iff.mp present
    exact look_activating_output now present _ _

end Looks

theorem interleaves_finished {world : Session} {result : Except StreamError Reply}
    (run : process.Interleaves (world, .finished result) glances last) :
    glances = [] ∧ last = (world, .finished result) := by
  cases run
  exact ⟨rfl, rfl⟩

/-- A wait ends at a look that finds the stream as the others left it. -/
theorem wait_resolves {earlier : Session} {activity : Activity} {wakeUp : Option Nat}
    {lifecycle : Lifecycle}
    (run : process.Interleaves (earlier, .blocked activity wakeUp) glances
      (world, .finished result))
    (awaits : AwaitsDevice role activity)
    (present : earlier.lifecycle? role = some lifecycle) :
    ∃ glance, glances.getLast? = some glance ∧
      glance.before.lifecycle? role = some (lifecycle.signalled (calls role glances)) ∧
      Resolves role glance.before (world, .finished result) := by
  -- By induction on the looks: each finds the lifecycle as all calls so far have left it.
  generalize starts : (earlier, Look.blocked activity wakeUp) = first at run
  generalize ends : (world, Look.finished result) = last at run
  induction run generalizing earlier activity wakeUp lifecycle with
  | done =>
    subst starts
    cases ends
  | look => cases starts
  | @poll _ before now standing glances last _ happened occurred run ih =>
    cases starts
    subst ends
    have reached : before.lifecycle? role =
        some (lifecycle.signalled (Happening.signals role happened)) := by
      rw [← occurred]
      change (happened.foldl occur _).lifecycle? role = _
      rw [lifecycle?_occurs, present]
      rfl
    have resolves := look_resolves awaits reached now
    generalize process.look now before standing = looked at run ih resolves ⊢
    obtain ⟨next, finished | ready | blocked⟩ := looked
    · obtain ⟨rfl, same⟩ := interleaves_finished run
      refine ⟨_, rfl, ?_, same ▸ resolves⟩
      rw [calls_cons, calls, List.flatMap_nil, List.append_nil]
      exact reached
    · cases resolves
    · cases resolves with
      | waits _ awaits =>
        obtain ⟨glance, final, called, resolves⟩ := ih awaits reached rfl rfl
        refine ⟨glance, ?_, ?_, resolves⟩
        · rw [List.getLast?_cons, final]
          rfl
        · rw [called, calls_cons, Lifecycle.signalled_append]

/-- An activation is over at once, or it waits for the device; its stream is not active then. -/
theorem startActivation_cases (session : Session) (now : Nat) (role : Role) (requested : UInt16)
    (resume : Bool) :
    (∃ error, session.startActivation now role requested resume =
        (session, .finished (.error error))) ∨
      ∃ activity lifecycle, AwaitsDevice role activity ∧
        session.lifecycle? role = some lifecycle ∧
        session.startActivation now role requested resume = (session, .ready activity) := by
  cases role with
  | input =>
    cases present : session.input? with
    | none => exact .inl ⟨_, by rw [startActivation, onInput, present]; rfl⟩
    | some side =>
      simp only [startActivation, onInput, present, InputSide.activate]
      cases begun : side.stream.beginActivation requested with
      | error error => exact .inl ⟨error, storeInput_same present _⟩
      | ok batchSize =>
        refine .inr ⟨_, side.stream.lifecycle, .input, ?_, storeInput_same present _⟩
        rw [lifecycle?, present]
        rfl
  | output =>
    cases present : session.output? with
    | none => exact .inl ⟨_, by rw [startActivation, onOutput, present]; rfl⟩
    | some side =>
      simp only [startActivation, onOutput, present, OutputSide.activate]
      cases begun : side.stream.beginActivation requested with
      | error error => exact .inl ⟨error, storeOutput_same present _⟩
      | ok batchSize =>
        refine .inr ⟨_, side.stream.lifecycle, .output, ?_, storeOutput_same present _⟩
        rw [lifecycle?, present]
        rfl

/-- The last look of an activation that others could act in finds the stream as they left it. -/
theorem activation_resolves {session : Session}
    (run : process.Interleaves (session.startActivation now role requested resume) glances
      (world, .finished result))
    (called : calls role glances ≠ []) :
    ∃ glance lifecycle, glances.getLast? = some glance ∧
      session.lifecycle? role = some lifecycle ∧
      glance.before.lifecycle? role = some (lifecycle.signalled (calls role glances)) ∧
      Resolves role glance.before (world, .finished result) := by
  rcases session.startActivation_cases now role requested resume with
    ⟨error, refused⟩ | ⟨activity, lifecycle, awaits, present, waits⟩
  · rw [refused] at run
    obtain ⟨rfl, _⟩ := interleaves_finished run
    exact absurd rfl called
  · rw [waits] at run
    cases run with
    | @look now _ _ glances _ run =>
      have resolves := look_resolves awaits present now
      have quiet : calls role (⟨session, [], session, process.look now session activity⟩ ::
          glances) = calls role glances := rfl
      rw [quiet] at called ⊢
      generalize process.look now session activity = looked at run resolves ⊢
      obtain ⟨next, finished | ready | blocked⟩ := looked
      · obtain ⟨rfl, _⟩ := interleaves_finished run
        exact absurd rfl called
      · cases resolves
      · cases resolves with
        | waits _ awaits =>
          obtain ⟨glance, final, left, resolves⟩ := wait_resolves run awaits present
          refine ⟨glance, lifecycle, ?_, present, left, resolves⟩
          rw [List.getLast?_cons, final]
          rfl

theorem start_stopped {session : Session} (operation : Operation)
    (stopped : session.state? operation.role ≠ some .active) :
    ∃ error, (operation.start session).2 = .finished (.error error) := by
  cases operation with
  | write frame =>
    change ∃ error, (session.onInput _).2 = _
    cases present : session.input? with
    | none => exact ⟨_, by rw [onInput, present]; rfl⟩
    | some side =>
      rw [onInput, present]
      rcases side.stream.beginWrite_cases frame with ⟨error, failed⟩ | ⟨_, active⟩
      · refine ⟨error, ?_⟩
        simp only [storeInput, InputSide.write, InputSide.follow, failed]
        rfl
      · refine absurd ?_ stopped
        exact congrArg (Option.map _) present |>.trans (congrArg some active)
  | read size =>
    change ∃ error, (session.onOutput _).2 = _
    cases present : session.output? with
    | none => exact ⟨_, by rw [onOutput, present]; rfl⟩
    | some side =>
      rw [onOutput, present]
      rcases side.stream.beginRead_cases size with ⟨error, failed⟩ | ⟨active, _⟩
      · refine ⟨error, ?_⟩
        simp only [storeOutput, OutputSide.read, OutputSide.follow, failed]
        rfl
      · refine absurd ?_ stopped
        exact congrArg (Option.map _) present |>.trans (congrArg some active)
  | align =>
    change ∃ error, (session.onOutput _).2 = _
    cases present : session.output? with
    | none => exact ⟨_, by rw [onOutput, present]; rfl⟩
    | some side =>
      rw [onOutput, present]
      cases begun : side.stream.beginAlignment with
      | error error =>
        refine ⟨error, ?_⟩
        simp only [storeOutput, OutputSide.align, begun]
        rfl
      | ok started =>
        have active := (OutputStream.beginAlignment_eq_ok begun).1
        refine absurd ?_ stopped
        exact congrArg (Option.map _) present |>.trans (congrArg some active)

/-- What an activation comes to when the last that others asked of the stream meanwhile was to stop.
The device decides: if it is ready the stream is active all the same, and if the time is up first,
the stream is as it was left, and nothing moves until the abort is cleared. -/
structure AfterStop (role : Role) (session : Session)
    (glances : List (Process.Glance Session Activity Happening (Except StreamError Reply)))
    (world : Session) (result : Except StreamError Reply) : Prop where
  active_iff : world.state? role = some .active ↔ result = .ok .done
  done_iff : result = .ok .done ↔
    ∃ glance, glances.getLast? = some glance ∧ glance.before.shared.isReady = true
  expires : result ≠ .ok .done → ∃ limit, result = .error (activationTimeout limit)
  left : result ≠ .ok .done →
    world.lifecycle? role = (session.lifecycle? role).map (·.signalled (calls role glances))
  rests : result ≠ .ok .done → ∀ (operation : Operation) (later : List Happening),
    operation.role = role → .clearAbort ∉ Happening.signals role later →
    let after := later.foldl occur world
    (∃ error, (operation.start after).2 = .finished (.error error)) ∧
      (operation.start after).1.shared = after.shared

/-- Whatever others ask of a stream that waits to be activated, and whenever, if the last of it is
to stop, only the device decides whether the stream is active when the activation is over. What an
activation does on a schedule is one of the interleavings this is about. -/
theorem activation_after_stop (session : Session) (now : Nat) (role : Role) (requested : UInt16)
    (resume : Bool) :
    (∀ glances world result request,
      process.Interleaves (session.startActivation now role requested resume) glances
        (world, .finished result) →
      (calls role glances).getLast? = some request → request ≠ .clearAbort →
      AfterStop role session glances world result) ∧
      ∀ schedule result,
        (session.activate now role requested resume schedule).result = some result →
        ∃ glances, process.Interleaves (session.startActivation now role requested resume) glances
          ((session.activate now role requested resume schedule).world, .finished result) := by
  refine ⟨?_, ?_⟩
  · intro glances world result request run last stops
    obtain ⟨earlier, split⟩ := List.getLast?_eq_some_iff.mp last
    obtain ⟨glance, lifecycle, final, present, left, resolves⟩ :=
      activation_resolves run (by rw [split]; simp)
    have stopped : (lifecycle.signalled (calls role glances)).state ≠ .active := by
      rw [split, Lifecycle.signalled_append]
      exact (lifecycle.signalled earlier).signal_stops stops
    have found : glance.before.state? role ≠ some .active := by
      rw [state?_eq, left]
      exact fun active => stopped (Option.some.inj active)
    cases resolves with
    | completed ready _ active =>
      exact {
        active_iff := iff_of_true active rfl
        done_iff := iff_of_true rfl ⟨glance, final, ready⟩
        expires := fun other => absurd rfl other
        left := fun other => absurd rfl other
        rests := fun other => absurd rfl other }
    | overtaken active => exact absurd active found
    | expired limit unready =>
      exact {
        active_iff := iff_of_false found nofun
        done_iff := by
          refine iff_of_false nofun ?_
          rintro ⟨other, same, ready⟩
          cases final.symm.trans same
          rw [unready] at ready
          cases ready
        expires := fun _ => ⟨limit, rfl⟩
        left := fun _ => by rw [left, present]; rfl
        rests := by
          rintro - operation later rfl uncleared
          refine ⟨start_stopped operation ?_, operation.start_shared _⟩
          rw [state?_eq, lifecycle?_occurs, left]
          exact fun active =>
            Lifecycle.signalled_stopped stopped uncleared (Option.some.inj active) }
  · intro schedule result found
    rw [activate_eq_follow] at found ⊢
    rcases session.startActivation_cases now role requested resume with
      ⟨error, refused⟩ | ⟨activity, _, _, _, waits⟩
    · rw [refused] at found ⊢
      cases found
      exact ⟨[], .done⟩
    · rw [waits] at found ⊢
      obtain ⟨glances, run⟩ := Process.interleaves_of_run found
      exact ⟨_, .look run⟩

private def expectant : Session :=
  let layer : Layer := ⟨"gauge", .deviceToHost, 4, 1⟩
  let stream : OutputStream :=
    { layer
      configuration := (OutputConfiguration.ofParameters {} layer).toOption.get rfl
      lifecycle := { name := "gauge" }, timeout := defaultTimeout, batchSize := 1 }
  { shared := ⟨Channel.inMemory 1472, false⟩, shaper := ⟨false, fun _ => none⟩
    output? := some ⟨stream, ⟨.host, []⟩⟩ }

private def expecting : Activity := .output (.activating 1 false 10000)

private theorem expectant_starts :
    expectant.startActivation 0 .output 0 false = (expectant, .ready expecting) := rfl

private theorem expectant_interleaves (happened : List Happening) (now : Nat) (world : Session)
    (result : Except StreamError Reply)
    (found : process.look now (happened.foldl process.occur expectant) expecting =
      (world, .finished result)) :
    process.Interleaves (expectant.startActivation 0 .output 0 false)
      [⟨expectant, [], expectant, process.look 0 expectant expecting⟩,
        ⟨expectant, happened, happened.foldl process.occur expectant, (world, .finished result)⟩]
      (world, .finished result) := by
  have blocks : process.look 0 expectant expecting = (expectant, .blocked expecting (some 10000)) :=
    rfl
  rw [expectant_starts]
  refine .look ?_
  rw [blocks, ← found]
  exact .poll rfl .done

/-- The time is up after an abort, and the stream is aborted. -/
theorem activation_after_stop_of_expired :
    ∃ glances world result,
      process.Interleaves (expectant.startActivation 0 .output 0 false) glances
        (world, .finished result) ∧
      calls .output glances = [.abort] ∧ AfterStop .output expectant glances world result ∧
      world.state? .output = some .aborted := by
  have run := expectant_interleaves [.signal .output .abort] 10000 _
    (.error (activationTimeout defaultTimeout)) rfl
  exact ⟨_, _, _, run, rfl,
    (activation_after_stop expectant 0 .output 0 false).1 _ _ _ .abort run rfl nofun, rfl⟩

private def upset : List Happening :=
  [.signal .output .abort, .arrival [1, 2, 3, 4], .readiness true]

private def upheld : Session := (process.look 2 (upset.foldl process.occur expectant) expecting).1

private def upheldReading : Activity := .output (.reading (.assembling [] false) .unmade)

/-- An abort and then the device's readiness while an activation waits: the stream is active, and
the next read takes a datagram. -/
theorem activation_after_abort_completes :
    ∃ glances world,
      process.Interleaves (expectant.startActivation 0 .output 0 false) glances
        (world, .finished (.ok .done)) ∧
      calls .output glances = [.abort] ∧ world.state? .output = some .active ∧
      ∃ looks after, process.Interleaves ((Operation.read 4).start world) looks
          (after, .finished (.ok (.frame [1, 2, 3, 4]))) ∧
        world.queued = [[1, 2, 3, 4]] ∧ after.queued = [] := by
  have run := expectant_interleaves upset 2 upheld (.ok .done) rfl
  have starts : (Operation.read 4).start upheld = (upheld, .ready upheldReading) := rfl
  have takes : process.look 2 upheld upheldReading =
      ((process.look 2 upheld upheldReading).1, .finished (.ok (.frame [1, 2, 3, 4]))) := rfl
  refine ⟨_, upheld, run, rfl, rfl,
    [⟨upheld, [], upheld, process.look 2 upheld upheldReading⟩],
    (process.look 2 upheld upheldReading).1, ?_, rfl, rfl⟩
  rw [starts, ← takes]
  exact .look .done

end Session

end FrameStream
