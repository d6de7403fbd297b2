import FrameStream.Proofs.Completion
import FrameStream.Proofs.Makeup

namespace FrameStream

/-- The stream as it would be made of its parts, with its time limit. -/
def InputStream.anew (stream : InputStream) : InputStream where
  layer := stream.layer
  configuration := stream.configuration
  lifecycle := { name := stream.layer.name }
  timeout := stream.timeout
  batchSize := stream.layer.maximumBatchSize

def OutputStream.anew (stream : OutputStream) : OutputStream where
  layer := stream.layer
  configuration := stream.configuration
  lifecycle := { name := stream.layer.name }
  timeout := stream.timeout
  batchSize := stream.layer.maximumBatchSize

/-- An activation without `resume` leaves nothing of what a stream was, but its parts. -/
theorem InputStream.activated_anew {stream : InputStream}
    (named : stream.lifecycle.name = stream.layer.name) (batchSize : UInt16) :
    (stream.activated batchSize false).anew.activated batchSize false =
      stream.activated batchSize false := by
  change InputStream.mk stream.layer _ { name := stream.layer.name, isActivated := true }
    _ _ _ _ = _
  rw [← named]
  rfl

theorem OutputStream.activated_anew {stream : OutputStream}
    (named : stream.lifecycle.name = stream.layer.name) (batchSize : UInt16) :
    ((stream.activated batchSize false).anew.activated batchSize false).varied id
        stream.statistics =
      stream.activated batchSize false := by
  change OutputStream.mk stream.layer _ { name := stream.layer.name, isActivated := true }
    _ _ _ _ _ (stream.statistics.plus {}) = _
  rw [← named, OutputStatistics.plus_empty]
  rfl

theorem InputStream.create_value {layer : Layer} {configuration : InputConfiguration}
    (created : create layer configuration pathLimit limiter = .ok made) :
    made.value =
      { layer, configuration, lifecycle := { name := layer.name }, timeout := defaultTimeout,
        batchSize := layer.maximumBatchSize } := by
  unfold create at created
  split at created
  · cases created
  · obtain ⟨_, _, created⟩ := ok_of_bind created
    cases created
    rfl

theorem InputStream.create_with {layer : Layer} {configuration : InputConfiguration}
    (created : create layer configuration pathLimit limiter = .ok made) (another : LimiterKind) :
    ∃ made, create layer configuration pathLimit another = .ok made := by
  unfold create at created ⊢
  split at created
  · cases created
  · obtain ⟨_, passed, _⟩ := ok_of_bind created
    rw [if_neg ‹_›, passed]
    exact ⟨_, rfl⟩

namespace Session

/-- The session with one of its streams made anew, of the layer and the configuration that it has
and over the transport as it is, with the limiter and the time limit as they are. -/
def anew (session : Session) : Role → Except StreamError Session
  | .input =>
    match session.input? with
    | none => .error .notActivated
    | some side => do
      let made ← InputStream.create side.stream.layer side.stream.configuration
        session.shared.channel.pathLimit side.limiter.kind
      let stream := { made.value with timeout := side.stream.timeout }
      return { session with input? := some { side with stream } }.report made.events
  | .output =>
    match session.output? with
    | none => .error .notActivated
    | some side => do
      let made ← OutputStream.create side.stream.layer side.stream.configuration
        session.shared.channel.pathLimit
      let stream := { made.value with timeout := side.stream.timeout }
      return { session with output? := some { side with stream } }.report made.events

/-- Something can be done with a session in which the stream was just made, one thing after another,
so that it comes to be like this. -/
def Reached (role : Role) (session : Session) (now : Nat) : Prop :=
  ∃ (earlier made : Session) (begun : Nat) (deeds : List Deed)
    (results : List (Except StreamError Reply)),
    earlier.anew role = .ok made ∧ made.course begun deeds = { now, world := session, results }

theorem reached_of_isOver {earlier made : Session} (anew : earlier.anew role = .ok made)
    (ended : (made.course begun deeds).isOver = true) :
    (made.course begun deeds).world.Reached role (made.course begun deeds).now := by
  refine ⟨earlier, made, begun, deeds, (made.course begun deeds).results, anew, ?_⟩
  generalize made.course begun deeds = course at ended
  cases course
  cases ended
  rfl

/-- The stream is called after its layer, and could be made of what it is made of. -/
def Assembled (session : Session) : Role → Prop
  | .input => ∃ layer configuration limiter stream,
    session.makeup.1 = some (layer, configuration, layer.name) ∧
      InputStream.create layer configuration session.makeup.2.2 limiter = .ok stream
  | .output => ∃ layer configuration stream,
    session.makeup.2.1 = some (layer, configuration, layer.name) ∧
      OutputStream.create layer configuration session.makeup.2.2 = .ok stream

variable {session other : Session}

theorem Assembled.of_makeup (assembled : session.Assembled role)
    (same : other.makeup = session.makeup) : other.Assembled role := by
  cases role with
  | input | output =>
    unfold Assembled
    rw [same]
    exact assembled

theorem assembled_of_anew (anew : session.anew role = .ok other) : other.Assembled role := by
  obtain ⟨shared, shaper, registry, input?, output?, events⟩ := session
  cases role with
  | input =>
    cases input? with
    | none => cases anew
    | some side =>
      obtain ⟨made, created, anew⟩ := ok_of_bind anew
      cases anew
      refine ⟨_, _, _, _, ?_, created⟩
      have value := InputStream.create_value created
      change some (made.value.layer, made.value.configuration, made.value.lifecycle.name) = _
      rw [value]
  | output =>
    cases output? with
    | none => cases anew
    | some side =>
      obtain ⟨made, created, anew⟩ := ok_of_bind anew
      cases anew
      refine ⟨_, _, _, ?_, created⟩
      have value := OutputStream.create_value created
      change some (made.value.layer, made.value.configuration, made.value.lifecycle.name) = _
      rw [value]

theorem Reached.assembled (reached : session.Reached role now) : session.Assembled role := by
  obtain ⟨earlier, made, begun, deeds, results, anew, course⟩ := reached
  have kept := made.course_makeup begun deeds
  rw [course] at kept
  exact (assembled_of_anew anew).of_makeup kept

theorem Assembled.input (assembled : session.Assembled .input)
    (present : session.input? = some side) :
    side.stream.lifecycle.name = side.stream.layer.name ∧
      ∃ events, session.anew .input =
        .ok { session with input? := some { side with stream := side.stream.anew }, events } := by
  obtain ⟨shared, shaper, registry, input?, output?, events⟩ := session
  cases present
  obtain ⟨layer, configuration, limiter, stream, known, created⟩ := assembled
  have same := Option.some.inj known
  have layer_eq : side.stream.layer = layer := congrArg (·.1) same
  have configuration_eq : side.stream.configuration = configuration := congrArg (·.2.1) same
  have name_eq : side.stream.lifecycle.name = layer.name := congrArg (·.2.2) same
  subst layer_eq configuration_eq
  obtain ⟨made, again⟩ : ∃ made, InputStream.create side.stream.layer side.stream.configuration
      shared.channel.pathLimit side.limiter.kind = .ok made :=
    InputStream.create_with created side.limiter.kind
  refine ⟨name_eq, events ++ made.events, ?_⟩
  have value : { made.value with timeout := side.stream.timeout } = side.stream.anew := by
    rw [InputStream.create_value again]
    rfl
  change (InputStream.create _ _ shared.channel.pathLimit _ >>= _) = _
  rw [again, ← value]
  rfl

theorem Assembled.output (assembled : session.Assembled .output)
    (present : session.output? = some side) :
    side.stream.lifecycle.name = side.stream.layer.name ∧
      ∃ events, session.anew .output =
        .ok { session with output? := some { side with stream := side.stream.anew }, events } := by
  obtain ⟨shared, shaper, registry, input?, output?, events⟩ := session
  cases present
  obtain ⟨layer, configuration, stream, known, created⟩ := assembled
  have same := Option.some.inj known
  have layer_eq : side.stream.layer = layer := congrArg (·.1) same
  have configuration_eq : side.stream.configuration = configuration := congrArg (·.2.1) same
  have name_eq : side.stream.lifecycle.name = layer.name := congrArg (·.2.2) same
  subst layer_eq configuration_eq
  replace created : OutputStream.create side.stream.layer side.stream.configuration
      shared.channel.pathLimit = .ok stream := created
  refine ⟨name_eq, events ++ stream.events, ?_⟩
  have value : { stream.value with timeout := side.stream.timeout } = side.stream.anew := by
    rw [OutputStream.create_value created]
    rfl
  change (OutputStream.create _ _ shared.channel.pathLimit >>= _) = _
  rw [created, ← value]
  rfl

def AwaitsInput (batchSize : UInt16) (_ : Session) (activity : Activity) : Prop :=
  ∃ deadline, activity = .input (.activating batchSize false deadline)

def BeganInput (batchSize : UInt16) (session : Session) (result : Except StreamError Reply) :
    Prop :=
  result = .ok .done → session.shared.isReady = true ∧
    ∃ (side : InputSide Float) (before : InputStream), session.input? = some side ∧
      side.stream = before.activated batchSize false

theorem beganInput_error (error : StreamError) : BeganInput batchSize session (.error error) := by
  intro same
  cases same

theorem look_awaits_input (now : Nat) (session : Session) (activity : Activity)
    (awaits : AwaitsInput batchSize session activity) :
    Process.Satisfies (AwaitsInput batchSize) (BeganInput batchSize)
      (process.look now session activity) := by
  obtain ⟨deadline, rfl⟩ := awaits
  change Process.Satisfies _ _ (session.onInput _)
  obtain ⟨shared, shaper, registry, input?, output?, events⟩ := session
  cases input? with
  | none => exact .finished (beganInput_error _)
  | some side =>
    simp only [onInput, InputSide.look, InputSide.lookActivating]
    split
    · cases activation : side.stream.completeActivation batchSize false with
      | error error => exact .finished (beganInput_error _)
      | ok reached =>
        exact .finished fun _ =>
          ⟨‹_›, _, side.stream, rfl, InputStream.activated_of_complete activation⟩
    · split
      · exact .finished (beganInput_error _)
      · exact .blocked ⟨deadline, rfl⟩

theorem activate_input_done {schedule : Schedule}
    (done : (session.activate now .input requested false schedule).result = some (.ok .done)) :
    ∃ side batchSize, session.input? = some side ∧
      side.stream.layer.batchSize requested = .ok batchSize ∧
      BeganInput batchSize (session.activate now .input requested false schedule).world
        (.ok .done) := by
  unfold activate onInput at *
  cases present : session.input? with
  | none =>
    rw [present] at done
    cases done
  | some side =>
    rw [present] at done
    simp only [InputSide.activate] at done ⊢
    unfold InputStream.beginActivation at done ⊢
    by_cases active : side.stream.lifecycle.state = .active
    · rw [if_pos active] at done
      cases done
    · rw [if_neg active] at done ⊢
      cases accepted : side.stream.layer.batchSize requested with
      | error error =>
        rw [accepted] at done
        cases done
      | ok batchSize =>
        rw [accepted] at done
        refine ⟨side, batchSize, rfl, accepted, ?_⟩
        exact follow_satisfies look_awaits_input (fun _ _ _ _ awaits => awaits)
          (.ready ⟨_, rfl⟩) done

def AwaitsOutput (batchSize : UInt16) (_ : Session) (activity : Activity) : Prop :=
  ∃ deadline, activity = .output (.activating batchSize false deadline)

def BeganOutput (batchSize : UInt16) (session : Session) (result : Except StreamError Reply) :
    Prop :=
  result = .ok .done → session.shared.isReady = true ∧
    ∃ (side : OutputSide) (before : OutputStream), session.output? = some side ∧
      side.stream = before.activated batchSize false

theorem beganOutput_error (error : StreamError) :
    BeganOutput batchSize session (.error error) := by
  intro same
  cases same

theorem look_awaits_output (now : Nat) (session : Session) (activity : Activity)
    (awaits : AwaitsOutput batchSize session activity) :
    Process.Satisfies (AwaitsOutput batchSize) (BeganOutput batchSize)
      (process.look now session activity) := by
  obtain ⟨deadline, rfl⟩ := awaits
  change Process.Satisfies _ _ (session.onOutput _)
  obtain ⟨shared, shaper, registry, input?, output?, events⟩ := session
  cases output? with
  | none => exact .finished (beganOutput_error _)
  | some side =>
    simp only [onOutput, OutputSide.look, OutputSide.lookActivating]
    split
    · cases activation : side.stream.completeActivation batchSize false with
      | error error => exact .finished (beganOutput_error _)
      | ok reached =>
        exact .finished fun _ =>
          ⟨‹_›, _, side.stream, rfl, OutputStream.activated_of_complete activation⟩
    · split
      · exact .finished (beganOutput_error _)
      · exact .blocked ⟨deadline, rfl⟩

theorem activate_output_done {schedule : Schedule}
    (done : (session.activate now .output requested false schedule).result = some (.ok .done)) :
    ∃ side batchSize, session.output? = some side ∧
      side.stream.layer.batchSize requested = .ok batchSize ∧
      BeganOutput batchSize (session.activate now .output requested false schedule).world
        (.ok .done) := by
  unfold activate onOutput at *
  cases present : session.output? with
  | none =>
    rw [present] at done
    cases done
  | some side =>
    rw [present] at done
    simp only [OutputSide.activate] at done ⊢
    unfold OutputStream.beginActivation at done ⊢
    by_cases active : side.stream.lifecycle.state = .active
    · rw [if_pos active] at done
      cases done
    · rw [if_neg active] at done ⊢
      cases accepted : side.stream.layer.batchSize requested with
      | error error =>
        rw [accepted] at done
        cases done
      | ok batchSize =>
        rw [accepted] at done
        refine ⟨side, batchSize, rfl, accepted, ?_⟩
        exact follow_satisfies look_awaits_output (fun _ _ _ _ awaits => awaits)
          (.ready ⟨_, rfl⟩) done

def counted (session : Session) : Role → OutputStatistics
  | .input => {}
  | .output => (session.output?.map (·.stream.statistics)).getD {}

/-- A session that another one differs from in nothing but what was reported, and in that its output
stream has counted more. -/
structure Counterpart (excess : OutputStatistics) (session other : Session) : Prop where
  shared_eq : other.shared = session.shared
  shaper_eq : other.shaper = session.shaper
  registry_eq : other.registry = session.registry
  input_eq : other.input? = session.input?
  output_eq : other.output? = session.output?.map fun side =>
    { side with stream.statistics := excess.plus side.stream.statistics }

theorem Like.counterpart (alike : Like true excess session other) :
    Counterpart excess session other := by
  obtain ⟨shared_eq, shaper_eq, registry_eq, input, output⟩ := alike
  refine ⟨shared_eq, shaper_eq, registry_eq, ?_, ?_⟩
  · generalize session.input? = first at input ⊢
    generalize other.input? = second at input ⊢
    cases input with
    | none => rfl
    | some like =>
      obtain ⟨rebatch, allowed⟩ := like
      rw [allowed rfl]
      rfl
  · generalize session.output? = first at output ⊢
    generalize other.output? = second at output ⊢
    cases output with
    | none => rfl
    | some like =>
      obtain ⟨rebatch, allowed⟩ := like
      rw [allowed rfl]
      rfl

/-- A session in which the input stream was just activated is like the one in which it is then made
anew and activated. -/
theorem Assembled.renew_input (assembled : session.Assembled .input)
    (present : session.input? = some side) (ready : session.shared.isReady = true)
    (accepted : side.stream.layer.batchSize requested = .ok batchSize)
    (began : side.stream = InputStream.activated before batchSize false) (now : Nat) :
    ∃ made begun, session.anew .input = .ok made ∧
      made.activate now .input requested false [] =
        { now, world := begun, result := some (.ok .done) } ∧
      Like true (session.counted .input) begun session := by
  obtain ⟨named, events, anew⟩ := assembled.input present
  have same : side.stream.anew.activated batchSize false = side.stream := by
    rw [began] at named ⊢
    exact InputStream.activated_anew named batchSize
  let made : Session :=
    { session with input? := some { side with stream := side.stream.anew }, events }
  obtain ⟨reported, activated⟩ :=
    made.activate_input_of_ready ready rfl nofun accepted now false []
  refine ⟨made, _, anew, activated, { Like.refl session with input := ?_ }⟩
  dsimp only
  rw [present, same]
  exact .some (.refl side)

theorem Assembled.renew_output (assembled : session.Assembled .output)
    (present : session.output? = some side) (ready : session.shared.isReady = true)
    (accepted : side.stream.layer.batchSize requested = .ok batchSize)
    (began : side.stream = OutputStream.activated before batchSize false) (now : Nat) :
    ∃ made begun, session.anew .output = .ok made ∧
      made.activate now .output requested false [] =
        { now, world := begun, result := some (.ok .done) } ∧
      Like true (session.counted .output) begun session := by
  obtain ⟨named, events, anew⟩ := assembled.output present
  have same : (side.stream.anew.activated batchSize false).varied id side.stream.statistics =
      side.stream := by
    rw [began] at named ⊢
    exact OutputStream.activated_anew named batchSize
  let made : Session :=
    { session with output? := some { side with stream := side.stream.anew }, events }
  obtain ⟨reported, activated⟩ :=
    made.activate_output_of_ready ready rfl nofun accepted now false []
  refine ⟨made, _, anew, activated, rfl, rfl, rfl, (Like.refl session).input, ?_⟩
  let fresh : OutputSide := { side with stream := side.stream.anew.activated batchSize false }
  have like : OutputSide.Like true side.stream.statistics fresh
      { fresh with stream := fresh.stream.varied id side.stream.statistics } :=
    .intro id fun _ => rfl
  rw [same] at like
  have counts : session.counted .output = side.stream.statistics := by
    rw [counted, present]
    rfl
  dsimp only
  rw [counts, present]
  exact .some like

theorem anew_like {schedule : Schedule} (assembled : session.Assembled role)
    (done : (session.activate now role requested false schedule).result = some (.ok .done)) :
    let run := session.activate now role requested false schedule
    ∃ made begun, run.world.anew role = .ok made ∧
      made.activate run.now role requested false [] =
        { now := run.now, world := begun, result := some (.ok .done) } ∧
      Like true (run.world.counted role) begun run.world := by
  have kept := session.perform_makeup now (.activate role requested false schedule)
  change (session.activate now role requested false schedule).world.makeup = _ at kept
  have assembled := assembled.of_makeup kept
  cases role with
  | input =>
    obtain ⟨side, batchSize, present, accepted, began⟩ := activate_input_done done
    obtain ⟨ready, after, before, found, stream⟩ := began rfl
    have layer : after.stream.layer = side.stream.layer := by
      have same := congrArg (·.1) kept
      simp only [makeup, found, present] at same
      exact congrArg (·.1) (Option.some.inj same)
    exact assembled.renew_input found ready (layer ▸ accepted) stream _
  | output =>
    obtain ⟨side, batchSize, present, accepted, began⟩ := activate_output_done done
    obtain ⟨ready, after, before, found, stream⟩ := began rfl
    have layer : after.stream.layer = side.stream.layer := by
      have same := congrArg (·.2.1) kept
      simp only [makeup, found, present] at same
      exact congrArg (·.1) (Option.some.inj same)
    exact assembled.renew_output found ready (layer ▸ accepted) stream _

/-- An activation that does not resume makes of a stream what a new one would be. Nothing that is
done from there on takes another time or comes to another result than with a stream that is made at
that moment, of the same parts and over the same transport, and activated with the same batch size;
nor do the two differ in what they send, take and hold, but for what the old one had counted. -/
theorem renewal_indistinguishable {schedule : Schedule} (reached : session.Reached role now)
    (done : (session.activate now role requested false schedule).result = some (.ok .done)) :
    let run := session.activate now role requested false schedule
    ∃ made begun, run.world.anew role = .ok made ∧
      made.activate run.now role requested false [] =
        { now := run.now, world := begun, result := some (.ok .done) } ∧
      ∀ deeds : List Deed,
        let new := begun.course run.now deeds
        let renewed := run.world.course run.now deeds
        renewed.now = new.now ∧ renewed.results = new.results ∧ renewed.isOver = new.isOver ∧
          Counterpart (run.world.counted role) new.world renewed.world := by
  obtain ⟨made, begun, anew, activated, like⟩ := anew_like reached.assembled done
  refine ⟨made, begun, anew, activated, fun deeds => ?_⟩
  have alike := course_alike like (session.activate now role requested false schedule).now deeds
  exact ⟨alike.now_eq, alike.results_eq, alike.isOver_eq, alike.like.counterpart⟩

private def unopened : Session :=
  let layer : Layer := ⟨"edge", .deviceToHost, 4, 8⟩
  let stream : OutputStream :=
    { layer
      configuration :=
        (OutputConfiguration.ofParameters { maximumPayload := 64, syncEnabled := true }
          layer).toOption.get rfl
      lifecycle := { name := "edge" }, timeout := defaultTimeout, batchSize := 8 }
  { shared := ⟨Channel.inMemory 1472, true⟩, shaper := ⟨false, fun _ => none⟩
    output? := some ⟨stream, ⟨.host, []⟩⟩ }

/-- A stream that lost a frame, and was stopped while it hunted, does as a new one does; it has one
lost frame more to its name. -/
theorem renewal_indistinguishable_of_lost_frame :
    ∃ (session : Session) (now : Nat),
      session.Reached .output now ∧
      session.output?.map (·.stream.isHunting) = some true ∧
      let run := session.activate now .output 4 false []
      run.result = some (.ok .done) ∧
      run.world.counted .output = { discardedFrames := 1 } ∧
      ∃ made begun, run.world.anew .output = .ok made ∧
        made.activate run.now .output 4 false [] =
          { now := run.now, world := begun, result := some (.ok .done) } ∧
        ∀ deeds : List Deed,
          (run.world.course run.now deeds).results = (begun.course run.now deeds).results := by
  let deeds : List Deed :=
    [.activate .output 0 false [], .occur (.arrival [5, 6]), .read none [],
      .occur (.signal .output .deactivate)]
  let made := unopened.report [.outputConfigured "edge" 4 64 true 8]
  have anew : unopened.anew .output = .ok made := rfl
  let lost := made.course 0 deeds
  have ended : lost.isOver = true := by decide +kernel
  have reached : lost.world.Reached .output lost.now := reached_of_isOver anew ended
  have done : (lost.world.activate lost.now .output 4 false []).result = some (.ok .done) := by
    decide +kernel
  obtain ⟨again, begun, anew, activated, same⟩ := renewal_indistinguishable reached done
  exact ⟨_, _, reached, by decide +kernel, done, by decide +kernel, again, begun, anew, activated,
    fun deeds => (same deeds).2.1⟩

end Session

end FrameStream
