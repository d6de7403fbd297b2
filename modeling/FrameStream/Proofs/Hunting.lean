import FrameStream.Proofs.Operations

namespace FrameStream

/-- What a transport answers a receive. -/
def Receipt.ofTransport (answer : Except TransportError Bytes) : Receipt :=
  answer.mapError .ofTransport

theorem StreamError.ofTransport_ne_invalidConfiguration (fault : TransportError) (reason : String) :
    ofTransport fault ≠ .invalidConfiguration reason := by
  cases fault <;> nofun

theorem ActivationState.interruption_ne_invalidConfiguration (state : ActivationState)
    (reason : String) : state.interruption ≠ .invalidConfiguration reason := by
  cases state <;> nofun

inductive Incident.OfRead : Task → Incident → Prop where
  | start (size : Nat) : OfRead .idle (.read size)
  | receive (point : ReadPoint) (answer : Except TransportError Bytes) :
      OfRead (.reading point) (.receive (.ofTransport answer))

/-- Whether a task looks for a marker, and takes nothing but one. -/
def Task.searches : Task → Bool
  | .aligning | .reading .hunting => true
  | _ => false

namespace OutputStream

/-- A stream that has had nothing to do with markers. -/
structure Unmarked (stream : OutputStream) : Prop where
  aligned : stream.isHunting = false
  unobserved : stream.lastIndex = SyncMarker.unobserved
  gapless : stream.statistics.gaps = 0
  unsynced : stream.statistics.resyncs = 0
  undiscarded : stream.statistics.discardedPayloads = 0

/-- A stream that finds the marker it searches for adopts its index. -/
inductive Adopts (stream : OutputStream) : Task → Incident → Consequence → Prop where
  | intro : task.searches = true → stream.answer receipt = .ok payload →
      SyncMarker.decode? payload stream.configuration.markerSize = some marker →
      next.stream.lastIndex = marker.index →
      next.stream.statistics.resyncs = stream.statistics.resyncs + 1 →
      Adopts stream task (.receive receipt) next

/-- An activation that does not resume what was before is completed. -/
inductive Forgets : Task → Incident → Consequence → Prop where
  | intro {batchSize : UInt16} : next.reply? = some (.ok .done) →
      Forgets (.activating batchSize false) (.settle true) next

variable {stream : OutputStream} {task : Task}

/-- A stream without markers has had nothing to do with them, and does not search for one. -/
def Markerless (stream : OutputStream) (task : Task) : Prop :=
  stream.configuration.syncEnabled = false → stream.Unmarked ∧ task.searches = false

theorem create_markerless {layer : Layer} {configuration : OutputConfiguration}
    (created : create layer configuration pathLimit = .ok made) (timeout : Duration) :
    Markerless { made.value with timeout } .idle := by
  rw [create_value created]
  exact fun _ => ⟨⟨rfl, rfl, rfl, rfl, rfl⟩, rfl⟩

theorem Assembles.leaves (assembles : Assembles stream bytes state) :
    ∃ rest, state.1 = stream.leaving rest := by
  cases assembles with
  | short | whole => exact ⟨_, rfl⟩

theorem Assembles.markerless {taken? : Option Bytes} (assembles : Assembles stream bytes state)
    (unmarked : stream.Unmarked) :
    Markerless (Consequence.ofRead taken? state).stream
      (Consequence.ofRead taken? state).task := by
  obtain ⟨aligned, unobserved, gapless, unsynced, undiscarded⟩ := unmarked
  intro _
  cases assembles with
  | short | whole => exact ⟨⟨aligned, unobserved, gapless, unsynced, undiscarded⟩, rfl⟩

theorem Unmarked.loseFrame (unmarked : stream.Unmarked)
    (disabled : stream.configuration.syncEnabled = false) (error : StreamError) (filled : Bytes) :
    (stream.loseFrame error filled).value.Unmarked := by
  obtain ⟨aligned, unobserved, gapless, unsynced, undiscarded⟩ := unmarked
  unfold OutputStream.loseFrame
  split
  · exact ⟨by simp [aligned, disabled], unobserved, gapless, unsynced, undiscarded⟩
  · exact ⟨aligned, unobserved, gapless, unsynced, undiscarded⟩

theorem Markerless.receive (markerless : Markerless stream (.reading point))
    (steady : Steady stream (.reading point))
    (disabled : stream.configuration.syncEnabled = false) (receipt : Receipt) :
    let next := Consequence.ofRead (stream.answer receipt).toOption
      (stream.received point (stream.answer receipt)).value
    Markerless next.stream next.task := by
  obtain ⟨unmarked, straight⟩ := markerless disabled
  cases steady.suits with
  | hunting => cases straight
  | assembling nothing _ room begun =>
    cases stream.answer receipt with
    | error error => exact fun _ => ⟨unmarked.loseFrame disabled error _, rfl⟩
    | ok payload =>
      rcases received_assembles nothing room begun payload with assembles | ⟨_, enabled, _⟩
      · exact assembles.markerless unmarked
      · rw [disabled] at enabled
        cases enabled

/-- What a stream was made of, and what it is called in its events. -/
def identity (stream : OutputStream) : Layer × OutputConfiguration × String :=
  (stream.layer, stream.configuration, stream.lifecycle.name)

theorem signal_identity (stream : OutputStream) (request : Lifecycle.Signal) :
    (stream.signal request).value.identity = stream.identity := by
  cases request <;> rfl

theorem received_identity (stream : OutputStream) (point : ReadPoint) (receipt : Receipt) :
    (stream.received point receipt).value.1.identity = stream.identity := by
  obtain ⟨_, _, _, _, changed⟩ := stream.received_changes point receipt
  rw [changed]
  rfl

theorem stream_ofRead (taken? : Option Bytes) (state : ReadState) :
    (Consequence.ofRead taken? state).stream = state.1 := by
  obtain ⟨stream, waiting | finished⟩ := state <;> rfl

theorem beginRead_identity (stream : OutputStream) (size : Nat) :
    (stream.beginRead size).value.1.identity = stream.identity := by
  rcases stream.beginRead_cases size with ⟨error, refused⟩ | ⟨_, _, hunts | ⟨_, assembles⟩⟩
  · rw [refused]
  · rw [hunts.2.2]
    rfl
  · generalize (stream.beginRead size).value = state at assembles
    cases assembles <;> rfl

theorem completeActivation_identity {batchSize : UInt16}
    (activation : stream.completeActivation batchSize resume = .ok activated) :
    activated.value.identity = stream.identity := by
  obtain ⟨between, started, activation⟩ := ok_of_bind activation
  unfold Lifecycle.activate at started
  split at started
  · cases started
  · cases started
    cases activation
    cases resume <;> rfl

theorem Responds.identity_eq (responds : Responds stream task incident next) :
    next.stream.identity = stream.identity := by
  cases responds with
  | signal => exact stream.signal_identity _
  | @read size => rw [stream_ofRead, beginRead_identity]
  | receive => rw [stream_ofRead, received_identity]
  | align begun =>
    obtain ⟨_, _, started⟩ := beginAlignment_eq_ok begun
    rw [started]
    rfl
  | @found receipt payload =>
    rcases stream.align_cases payload with ⟨_, passed⟩ | ⟨_, _, found⟩
    · rw [passed]
      rfl
    · rw [found]
      rfl
  | activated activation => exact completeActivation_identity activation
  | setTimeout | unaligned | missed | unready | activate | expire | overtaken => rfl

theorem Runs.identity_eq (run : Runs stream task incidents taken replies last final) :
    last.identity = stream.identity := by
  induction run with
  | done => rfl
  | step responds _ ih => rw [ih, responds.identity_eq]

/-- Without markers nothing has to do with them, whatever happens. -/
theorem Markerless.respond (markerless : Markerless stream task) (steady : Steady stream task)
    (responds : Responds stream task incident next) : Markerless next.stream next.task := by
  intro disabled
  have same := congrArg (·.2.1.syncEnabled) responds.identity_eq
  change next.stream.configuration.syncEnabled = stream.configuration.syncEnabled at same
  have plain := same.symm.trans disabled
  obtain ⟨unmarked, straight⟩ := markerless plain
  have ⟨aligned, unobserved, gapless, unsynced, undiscarded⟩ := unmarked
  cases responds with
  | signal | setTimeout | unaligned | unready | activate | expire | overtaken =>
    exact ⟨⟨aligned, unobserved, gapless, unsynced, undiscarded⟩, straight⟩
  | @read size =>
    rcases stream.beginRead_cases size with ⟨error, refused⟩ | ⟨_, _, hunts | ⟨_, assembles⟩⟩
    · rw [refused]
      exact ⟨unmarked, rfl⟩
    · rw [aligned] at hunts
      cases hunts.1
    · exact assembles.markerless unmarked disabled
  | receive => exact markerless.receive steady plain _ disabled
  | align begun =>
    rw [(beginAlignment_eq_ok begun).2.1] at plain
    cases plain
  | missed | found => cases straight
  | activated activation =>
    obtain ⟨lifecycle, value⟩ := completeActivation_value activation
    rw [value]
    split
    · exact ⟨⟨aligned, unobserved, gapless, unsynced, undiscarded⟩, rfl⟩
    · exact ⟨⟨rfl, rfl, gapless, unsynced, undiscarded⟩, rfl⟩

theorem Runs.markerless (run : Runs stream task incidents taken replies last final)
    (markerless : Markerless stream task) (steady : Steady stream task) :
    Markerless last final := by
  induction run with
  | done => exact markerless
  | step responds _ ih => exact ih (markerless.respond steady responds) (steady.respond responds)

/-- A hunt ends with the marker that is found, or is forgotten. -/
theorem Responds.stops_hunting (responds : Responds stream task incident next)
    (steady : Steady stream task) (hunting : stream.isHunting = true)
    (ended : next.stream.isHunting = false) :
    Adopts stream task incident next ∨ Forgets task incident next := by
  have goes_on (kept : next.stream.isHunting = stream.isHunting) : False := by
    rw [ended, hunting] at kept
    cases kept
  cases responds with
  | signal | setTimeout | unaligned | missed | unready | activate | expire | overtaken =>
    exact (goes_on rfl).elim
  | @read size =>
    rcases stream.beginRead_cases size with ⟨error, refused⟩ | ⟨_, _, hunts | ⟨aligned, _⟩⟩
    · rw [refused] at goes_on
      exact (goes_on rfl).elim
    · rw [hunts.2.2] at goes_on
      exact (goes_on rfl).elim
    · rw [hunting] at aligned
      cases aligned
  | @receive point receipt =>
    cases steady.suits with
    | assembling _ aligned =>
      rw [hunting] at aligned
      cases aligned
    | hunting nothing =>
      cases answered : stream.answer receipt with
      | error error =>
        rw [answered] at goes_on
        exact (goes_on rfl).elim
      | ok payload =>
        rw [answered] at goes_on
        rcases received_hunting nothing payload with ⟨_, passed⟩ | ⟨marker, decoded, assembles⟩
        · rw [passed] at goes_on
          exact (goes_on rfl).elim
        · obtain ⟨rest, left⟩ := assembles.leaves
          refine .inl (.intro rfl answered decoded ?_ ?_)
          · rw [stream_ofRead, left]
            rfl
          · rw [stream_ofRead, left]
            rfl
  | align begun =>
    rw [(beginAlignment_eq_ok begun).2.2] at goes_on
    exact (goes_on rfl).elim
  | @found receipt payload answered =>
    rcases stream.align_cases payload with ⟨_, passed⟩ | ⟨marker, decoded, found⟩
    · rw [passed] at goes_on
      exact (goes_on rfl).elim
    · refine .inl (.intro rfl answered decoded ?_ ?_)
      · rw [found]
        rfl
      · rw [found]
        rfl
  | @activated resume _ _ activation =>
    cases resume with
    | false => exact .inr (.intro rfl)
    | true =>
      obtain ⟨_, value⟩ := completeActivation_value activation
      rw [value] at goes_on
      exact (goes_on rfl).elim

/-- Bytes at hand never make a read fail. -/
theorem Assembles.ne_error (assembles : Assembles stream bytes state) (error : StreamError) :
    state.2 ≠ .finished (.error error) := by
  cases assembles with
  | short | whole => nofun

theorem beginRead_error
    (enabled : stream.isHunting = true → stream.configuration.syncEnabled = true)
    (failed : (stream.beginRead size).value.2 = .finished (.error error)) :
    error = .invalidFrameSize stream.layer.frameSize size ∨
      error = stream.lifecycle.state.interruption := by
  unfold beginRead at failed
  by_cases exact : size = stream.layer.frameSize
  · rw [if_neg (not_not_intro exact)] at failed
    by_cases active : stream.lifecycle.state = .active
    · have ready := (Lifecycle.ensureActive_eq_ok _).mpr active
      simp only [ready] at failed
      by_cases hunting : stream.isHunting = true
      · simp [hunting, beginAlignment, enabled hunting, ready] at failed
      · rw [if_neg hunting] at failed
        exact absurd failed ((stream.beginFrame_assembles false).ne_error error)
    · simp only [Lifecycle.ensureActive_eq_error active] at failed
      cases failed
      exact .inr rfl
  · rw [if_pos exact] at failed
    cases failed
    exact .inl rfl

/-- A payload never makes a read fail. -/
theorem received_payload_ne_error (suits : stream.Suits (.reading point)) (payload : Bytes)
    (error : StreamError) :
    (stream.received point (.ok payload)).value.2 ≠ .finished (.error error) := by
  cases suits with
  | hunting nothing =>
    rcases received_hunting nothing payload with ⟨_, passed⟩ | ⟨_, _, assembles⟩
    · rw [passed]
      nofun
    · exact assembles.ne_error error
  | assembling nothing _ room begun =>
    rcases received_assembles nothing room begun payload with assembles | ⟨_, _, _, _, assembles⟩
    · exact assembles.ne_error error
    · exact assembles.ne_error error

/-- A receive that a transport answers fails with an error of the transport, or is interrupted. -/
theorem answer_error {answer : Except TransportError Bytes}
    (failed : stream.answer (.ofTransport answer) = .error error) :
    (∃ fault, error = .ofTransport fault) ∨ error = stream.lifecycle.state.interruption := by
  by_cases active : stream.lifecycle.state = .active
  · simp only [OutputStream.answer, (Lifecycle.ensureActive_eq_ok _).mpr active] at failed
    cases answer with
    | error fault =>
      cases failed
      exact .inl ⟨fault, rfl⟩
    | ok payload => cases failed
  · simp only [OutputStream.answer, Lifecycle.ensureActive_eq_error active] at failed
    cases failed
    exact .inr rfl

theorem Responds.read_accepted (responds : Responds stream task incident next)
    (steady : Steady stream task) (reads : incident.OfRead task) (reason : String) :
    next.reply? ≠ some (.error (.invalidConfiguration reason)) := by
  have accepted {taken? : Option Bytes} {state : ReadState}
      (replied : (Consequence.ofRead taken? state).reply? =
        some (.error (.invalidConfiguration reason))) :
      state.2 = .finished (.error (.invalidConfiguration reason)) := by
    obtain ⟨_, waiting | result⟩ := state
    · cases replied
    · cases result with
      | ok _ => cases replied
      | error error =>
        cases replied
        rfl
  intro replied
  cases reads with
  | start size =>
    cases responds with
    | read =>
      rcases beginRead_error steady.enabled (accepted replied) with wrong | stopped
      · cases wrong
      · exact stream.lifecycle.state.interruption_ne_invalidConfiguration reason stopped.symm
  | receive point answer =>
    cases responds with
    | receive =>
      have failed := accepted replied
      cases answered : stream.answer (.ofTransport answer) with
      | error error =>
        rw [answered, received_error] at failed
        cases failed
        rcases answer_error answered with ⟨fault, wrong⟩ | stopped
        · exact StreamError.ofTransport_ne_invalidConfiguration fault reason wrong.symm
        · exact stream.lifecycle.state.interruption_ne_invalidConfiguration reason stopped.symm
      | ok payload =>
        rw [answered] at failed
        exact absurd failed (received_payload_ne_error steady.suits payload _)

/-- What is true of a stream of some configuration at any time after it was made. -/
structure Sound (configuration : OutputConfiguration) (stream : OutputStream) (task : Task) :
    Prop where
  configured : stream.configuration = configuration
  bounded : stream.leftover.length < configuration.maximumPayload
  hunts : stream.isHunting = true → configuration.syncEnabled = true ∧ stream.leftover = []
  /-- No read says that there are no markers to look for. -/
  accepted : ∀ incident next reason, Responds stream task incident next → incident.OfRead task →
    next.reply? ≠ some (.error (.invalidConfiguration reason))
  unmarked : configuration.syncEnabled = false → stream.Unmarked
  /-- A hunt ends only with a marker, or with all that was before. -/
  steadfast : ∀ incident next, Responds stream task incident next → stream.isHunting = true →
    next.stream.isHunting = false → Adopts stream task incident next ∨ Forgets task incident next

/-- Whatever is done with a stream after it was made, and whatever is received meanwhile: less than
a payload is left over, only a stream with markers hunts, with nothing left over, until it adopts a
marker or forgets the past, and a stream without markers never counts anything that has to do with
them. -/
theorem sound_of_runs {layer : Layer} {configuration : OutputConfiguration} {timeout : Duration}
    {last : OutputStream} {final : Task}
    (created : create layer configuration pathLimit = .ok made)
    (run : Runs { made.value with timeout } .idle incidents taken replies last final) :
    Sound configuration last final := by
  have started := create_steady created timeout
  have steady := run.steady started
  have configured : last.configuration = configuration := by
    have same := congrArg (·.2.1) run.identity_eq
    rw [create_value created] at same
    exact same
  subst configured
  exact {
    configured := rfl
    bounded := steady.bounded
    hunts := fun hunting => ⟨steady.enabled hunting, steady.empty hunting⟩
    accepted := fun _ _ reason responds reads => responds.read_accepted steady reads reason
    unmarked := fun disabled =>
      (run.markerless (create_markerless created timeout) started disabled).1
    steadfast := fun _ _ responds => responds.stops_hunting steady }

/-- Frames of four bytes behind markers, and the stream that they come from. -/
private def marked : OutputConfiguration :=
  (OutputConfiguration.ofParameters { maximumPayload := 20, syncEnabled := true }
    ⟨"edge", .deviceToHost, 4, 1⟩).toOption.get rfl

private def markedStream (isActivated isHunting : Bool) (statistics : OutputStatistics) :
    OutputStream :=
  { layer := ⟨"edge", .deviceToHost, 4, 1⟩, configuration := marked,
    lifecycle := { name := "edge", isActivated }, timeout := defaultTimeout, batchSize := 1,
    isHunting, statistics }

/-- A stream that lost a frame hunts, over a payload without a marker, and with nothing left over
even though that payload is longer than a frame. -/
theorem sound_of_lost_frame :
    ∃ (stream last : OutputStream) (incidents : List Incident) (taken : List Bytes)
      (replies : List (Except StreamError Reply)),
      Runs stream .idle incidents taken replies last (.reading .hunting) ∧
        Sound marked last (.reading .hunting) ∧
        last.isHunting = true ∧ taken = [[1, 2], [3, 4, 5, 6, 7]] := by
  have created : create ⟨"edge", .deviceToHost, 4, 1⟩ marked 20 =
      .ok ⟨markedStream false false {}, [.outputConfigured "edge" 4 20 true 8]⟩ := rfl
  have opened : Runs (markedStream false false {}) .idle
      [.activate 0 false, .settle true] [] [.ok .done] (markedStream true false {}) .idle :=
    Runs.step (Responds.activate rfl) (Runs.step (Responds.activated rfl) Runs.done)
  have lost : Runs (markedStream true false {}) .idle
      [.read 4, .receive (.ok [1, 2]), .receive (.error (.timeout "receive" defaultTimeout))]
      [[1, 2]] [.error (.timeout "receive" defaultTimeout)]
      (markedStream true true { discardedFrames := 1 }) .idle :=
    Runs.step Responds.read (Runs.step Responds.receive (Runs.step Responds.receive Runs.done))
  have hunted : Runs (markedStream true true { discardedFrames := 1 }) .idle
      [.read 4, .receive (.ok [3, 4, 5, 6, 7])] [[3, 4, 5, 6, 7]] []
      (markedStream true true { discardedFrames := 1, discardedPayloads := 1 })
      (.reading .hunting) :=
    Runs.step Responds.read (Runs.step Responds.receive Runs.done)
  have run := opened.append (lost.append hunted)
  exact ⟨_, _, _, _, _, run, sound_of_runs created run, rfl, rfl⟩

end OutputStream

end FrameStream
