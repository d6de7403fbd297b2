import FrameStream.Proofs.Assembly
import FrameStream.Proofs.Checks
import FrameStream.Session.OutputSide

/-!
Everything that can be done with an output stream, one thing at a time: its owner starts operations
one after another, the device and the transport answer them, and other tasks act through its handle
whenever they like. A stream takes a datagram only while it is active.
-/

namespace FrameStream

inductive Task where
  | idle
  | activating (batchSize : UInt16) (resume : Bool)
  | reading (point : ReadPoint)
  | aligning
  deriving Repr

inductive Incident where
  /-- Its owner starts to read into a buffer of the given size. -/
  | read (size : Nat)
  | align
  | activate (requested : UInt16) (resume : Bool)
  | setTimeout (timeout : Duration)
  /-- The wait for the device is over: it is ready, or the time is up. -/
  | settle (isReady : Bool)
  /-- The stream looks at a receive, which the transport would answer like this. -/
  | receive (receipt : Receipt)
  /-- Another task acts through the handle. -/
  | signal (request : Lifecycle.Signal)

/-- What an incident leads to: the stream afterwards and what it is doing then, with the datagram
that it took from the transport and the reply that its owner got. -/
structure Consequence where
  stream : OutputStream
  task : Task := .idle
  taken? : Option Bytes := none
  reply? : Option (Except StreamError Reply) := none

namespace Consequence

def refuse (stream : OutputStream) (error : StreamError) : Consequence :=
  { stream, reply? := some (.error error) }

/-- A step of a read. -/
def ofRead (taken? : Option Bytes) : OutputStream.ReadState → Consequence
  | (stream, .waiting point) => { stream, task := .reading point, taken? }
  | (stream, .finished result) => { stream, taken?, reply? := some (result.map .frame) }

def ofAlignment (payload : Bytes) : OutputStream × Option UInt32 → Consequence
  | (stream, none) => { stream, task := .aligning, taken? := some payload }
  | (stream, some index) =>
    { stream, taken? := some payload, reply? := some (.ok (.index index)) }

end Consequence

namespace OutputStream

/-- What a receive comes to. The transport is asked only while the stream is active, and a datagram
is cut to the stream's buffer. -/
def answer (stream : OutputStream) (receipt : Receipt) : Receipt :=
  match stream.lifecycle.ensureActive with
  | .error error => .error error
  | .ok _ => receipt.map (List.take stream.configuration.maximumPayload)

/-- What an incident leads to that can happen while a stream is at a task. -/
inductive Responds (stream : OutputStream) : Task → Incident → Consequence → Prop where
  | signal (task : Task) :
      Responds stream task (.signal request) { stream := (stream.signal request).value, task }
  | setTimeout (timeout : Duration) :
      Responds stream .idle (.setTimeout timeout) { stream := { stream with timeout } }
  | read : Responds stream .idle (.read size) (.ofRead none (stream.beginRead size).value)
  | receive : Responds stream (.reading point) (.receive receipt)
      (.ofRead (stream.answer receipt).toOption
        (stream.received point (stream.answer receipt)).value)
  | unaligned : stream.beginAlignment = .error error →
      Responds stream .idle .align (.refuse stream error)
  | align : stream.beginAlignment = .ok started →
      Responds stream .idle .align { stream := started.value, task := .aligning }
  | missed : stream.answer receipt = .error error →
      Responds stream .aligning (.receive receipt) (.refuse stream error)
  | found : stream.answer receipt = .ok payload →
      Responds stream .aligning (.receive receipt)
        (.ofAlignment payload (stream.align payload).value)
  | unready : stream.beginActivation requested = .error error →
      Responds stream .idle (.activate requested resume) (.refuse stream error)
  | activate {batchSize : UInt16} : stream.beginActivation requested = .ok batchSize →
      Responds stream .idle (.activate requested resume)
        { stream, task := .activating batchSize resume }
  | expire {batchSize : UInt16} :
      Responds stream (.activating batchSize resume) (.settle false)
        (.refuse stream (activationTimeout stream.timeout))
  | overtaken {batchSize : UInt16} : stream.completeActivation batchSize resume = .error error →
      Responds stream (.activating batchSize resume) (.settle true) (.refuse stream error)
  | activated {batchSize : UInt16} : stream.completeActivation batchSize resume = .ok activated →
      Responds stream (.activating batchSize resume) (.settle true)
        { stream := activated.value, reply? := some (.ok .done) }

/-- What a list of incidents makes of a stream and what it is doing, with the datagrams taken and
the replies given meanwhile. -/
inductive Runs : OutputStream → Task → List Incident → List Bytes →
    List (Except StreamError Reply) → OutputStream → Task → Prop where
  | done : Runs stream task [] [] [] stream task
  | step : Responds stream task incident next →
      Runs next.stream next.task incidents taken replies last final →
      Runs stream task (incident :: incidents) (next.taken?.toList ++ taken)
        (next.reply?.toList ++ replies) last final

theorem Runs.append (first : Runs stream task incidents taken replies middle between)
    (second : Runs middle between more others later last final) :
    Runs stream task (incidents ++ more) (taken ++ others) (replies ++ later) last final := by
  induction first with
  | done => exact second
  | step responds _ ih =>
    rw [List.append_assoc, List.append_assoc]
    exact .step responds (ih second)

/-- A stream can come to be like this, and do this, after it was made. -/
def Reached (stream : OutputStream) (task : Task) : Prop :=
  ∃ layer configuration pathLimit made timeout incidents taken replies,
    create layer configuration pathLimit = .ok made ∧
      Runs { made.value with timeout } .idle incidents taken replies stream task

/-- What holds of a stream as far as its task needs it. -/
inductive Suits (stream : OutputStream) : Task → Prop where
  | idle : Suits stream .idle
  | activating {batchSize : UInt16} : Suits stream (.activating batchSize resume)
  | hunting : stream.leftover = [] → Suits stream (.reading .hunting)
  | assembling : stream.leftover = [] → stream.isHunting = false →
      filled.length < stream.layer.frameSize → (started = false → filled = []) →
      Suits stream (.reading (.assembling filled started))
  | aligning : stream.leftover = [] → Suits stream .aligning

/-- What holds of every stream: less than a payload is left over, and only a stream with markers
hunts for one, with nothing left over. -/
structure Steady (stream : OutputStream) (task : Task) : Prop where
  bounded : stream.leftover.length < stream.configuration.maximumPayload
  enabled : stream.isHunting = true → stream.configuration.syncEnabled = true
  empty : stream.isHunting = true → stream.leftover = []
  suits : stream.Suits task

variable {stream : OutputStream} {task : Task}

theorem answer_within (answered : stream.answer receipt = .ok payload) :
    stream.lifecycle.state = .active ∧
      payload.length ≤ stream.configuration.maximumPayload := by
  unfold answer at answered
  split at answered
  · cases answered
  · rename_i ready
    cases receipt with
    | error error => cases answered
    | ok datagram =>
      cases answered
      exact ⟨(Lifecycle.ensureActive_eq_ok _).mp ready, List.length_take_le _ _⟩

theorem create_value {layer : Layer} {configuration : OutputConfiguration}
    (created : create layer configuration pathLimit = .ok made) :
    made.value =
      { layer, configuration, lifecycle := { name := layer.name }, timeout := defaultTimeout,
        batchSize := layer.maximumBatchSize } := by
  unfold create at created
  split at created
  · cases created
  · obtain ⟨_, _, created⟩ := ok_of_bind created
    cases created
    rfl

theorem create_steady {layer : Layer} {configuration : OutputConfiguration}
    (created : create layer configuration pathLimit = .ok made) (timeout : Duration) :
    Steady { made.value with timeout } .idle := by
  rw [create_value created]
  exact ⟨configuration.payload_pos, nofun, fun _ => rfl, .idle⟩

/-- An activation keeps what was received, or forgets all of it. -/
theorem completeActivation_value {batchSize : UInt16}
    (activation : stream.completeActivation batchSize resume = .ok activated) :
    ∃ lifecycle, activated.value =
      if resume then { stream with lifecycle, batchSize }
      else
        { stream with
          lifecycle, batchSize, leftover := [], lastIndex := SyncMarker.unobserved,
          isHunting := false } := by
  obtain ⟨between, _, activation⟩ := ok_of_bind activation
  cases activation
  exact ⟨between.value, rfl⟩

namespace Steady

theorem signal (steady : Steady stream task) (request : Lifecycle.Signal) :
    Steady (stream.signal request).value task := by
  obtain ⟨bounded, enabled, empty, suits⟩ := steady
  refine ⟨bounded, enabled, empty, ?_⟩
  cases suits with
  | idle => exact .idle
  | activating => exact .activating
  | hunting nothing => exact .hunting nothing
  | assembling nothing aligned room begun => exact .assembling nothing aligned room begun
  | aligning nothing => exact .aligning nothing

theorem rest (steady : Steady stream task) : Steady stream .idle :=
  { steady with suits := .idle }

theorem completeActivation {batchSize : UInt16} (steady : Steady stream task)
    (activation : stream.completeActivation batchSize resume = .ok activated) :
    Steady activated.value .idle := by
  obtain ⟨lifecycle, value⟩ := completeActivation_value activation
  rw [value]
  cases resume with
  | true => exact ⟨steady.bounded, steady.enabled, steady.empty, .idle⟩
  | false =>
    exact ⟨stream.configuration.payload_pos, nofun, fun _ => rfl, .idle⟩

end Steady

/-- A frame and the payload it ends in are longer than what is left over. -/
theorem Assembles.steady {taken? : Option Bytes} (assembles : Assembles stream bytes state)
    (aligned : stream.isHunting = false)
    (bounded : bytes.length < stream.layer.frameSize + stream.configuration.maximumPayload) :
    Steady (Consequence.ofRead taken? state).stream (Consequence.ofRead taken? state).task := by
  have unsought (rest : Bytes) : ¬ (stream.leaving rest).isHunting = true := by
    rw [leaving_isHunting, aligned]
    exact Bool.false_ne_true
  cases assembles with
  | short room begun =>
    exact ⟨stream.configuration.payload_pos, fun hunts => absurd hunts (unsought _),
      fun hunts => absurd hunts (unsought _), .assembling rfl aligned room begun⟩
  | whole enough =>
    refine ⟨?_, fun hunts => absurd hunts (unsought _), fun hunts => absurd hunts (unsought _),
      .idle⟩
    change (bytes.drop stream.layer.frameSize).length < stream.configuration.maximumPayload
    rw [List.length_drop]
    omega

/-- The ways a read can start: it is refused, or it hunts, or it has what is left over. -/
theorem beginRead_cases (stream : OutputStream) (size : Nat) :
    (∃ error, (stream.beginRead size).value = (stream, .finished (.error error))) ∨
      stream.lifecycle.state = .active ∧ size = stream.layer.frameSize ∧
        (stream.isHunting = true ∧ stream.configuration.syncEnabled = true ∧
            (stream.beginRead size).value = (stream.leaving [], .waiting .hunting) ∨
          stream.isHunting = false ∧
            Assembles stream stream.leftover (stream.beginRead size).value) := by
  by_cases exact : size = stream.layer.frameSize
  · cases ready : stream.lifecycle.ensureActive with
    | error error =>
      exact .inl ⟨error, by simp [beginRead, exact, ready, fail]⟩
    | ok _ =>
      have active := (Lifecycle.ensureActive_eq_ok _).mp ready
      cases hunting : stream.isHunting with
      | false =>
        have started := stream.beginFrame_assembles false
        refine .inr ⟨active, exact, .inr ⟨rfl, ?_⟩⟩
        simpa [beginRead, exact, ready, hunting] using started
      | true =>
        cases enabled : stream.configuration.syncEnabled with
        | false =>
          exact .inl ⟨stream.syncDisabled,
            by simp [beginRead, beginAlignment, exact, ready, hunting, enabled, fail]⟩
        | true =>
          refine .inr ⟨active, exact, .inl ⟨rfl, rfl, ?_⟩⟩
          simp [beginRead, beginAlignment, exact, ready, hunting, enabled, leaving]
  · exact .inl ⟨_, by simp only [beginRead, if_pos exact]; rfl⟩

theorem beginAlignment_eq_ok (begun : stream.beginAlignment = .ok started) :
    stream.lifecycle.state = .active ∧ stream.configuration.syncEnabled = true ∧
      started.value = stream.leaving [] := by
  unfold beginAlignment at begun
  split at begun
  · rename_i enabled
    split at begun
    · cases begun
    · rename_i ready
      cases begun
      exact ⟨(Lifecycle.ensureActive_eq_ok _).mp ready, enabled, rfl⟩
  · cases begun

theorem Steady.read (steady : Steady stream .idle) (size : Nat) :
    Steady (Consequence.ofRead none (stream.beginRead size).value).stream
      (Consequence.ofRead none (stream.beginRead size).value).task := by
  rcases stream.beginRead_cases size with ⟨error, refused⟩ | ⟨_, _, hunts | ⟨aligned, assembles⟩⟩
  · rw [refused]
    exact steady
  · obtain ⟨_, enabled, begun⟩ := hunts
    rw [begun]
    exact ⟨stream.configuration.payload_pos, fun _ => enabled, fun _ => rfl, .hunting rfl⟩
  · exact assembles.steady aligned (Nat.lt_of_lt_of_le steady.bounded (Nat.le_add_left _ _))

/-- Losing a frame makes a stream with markers hunt. -/
theorem Steady.loseFrame (steady : Steady stream task) (empty : stream.leftover = [])
    (error : StreamError) (filled : Bytes) :
    Steady (stream.loseFrame error filled).value .idle := by
  unfold OutputStream.loseFrame
  split
  · refine ⟨steady.bounded, ?_, fun _ => empty, .idle⟩
    intro hunts
    rcases Bool.or_eq_true_iff.mp hunts with hunting | enabled
    · exact steady.enabled hunting
    · exact enabled
  · exact steady.rest

/-- Data of a payload that opened with a marker leaves less than a payload over. -/
theorem length_drop_marker (stream : OutputStream)
    (decoded : SyncMarker.decode? payload stream.configuration.markerSize = some marker)
    (within : payload.length ≤ stream.configuration.maximumPayload) :
    (payload.drop stream.configuration.markerSize).length <
      stream.configuration.maximumPayload := by
  have ⟨least, long⟩ := SyncMarker.length_of_decode? decoded
  rw [SyncMarker.minimumSize] at least
  rw [List.length_drop]
  omega

theorem Steady.receive (steady : Steady stream (.reading point)) (receipt : Receipt) :
    let next := Consequence.ofRead (stream.answer receipt).toOption
      (stream.received point (stream.answer receipt)).value
    Steady next.stream next.task := by
  cases answered : stream.answer receipt with
  | error error =>
    cases steady.suits with
    | hunting => exact steady.rest
    | assembling nothing => exact steady.loseFrame nothing error _
  | ok payload =>
    have ⟨_, within⟩ := answer_within answered
    cases steady.suits with
    | hunting nothing =>
      rcases received_hunting nothing payload with ⟨_, passed⟩ | ⟨marker, decoded, assembles⟩
      · rw [passed]
        exact ⟨steady.bounded, steady.enabled, steady.empty, .hunting nothing⟩
      · refine assembles.steady rfl ?_
        have shorter := stream.length_drop_marker decoded within
        exact Nat.lt_of_lt_of_le shorter (Nat.le_add_left _ _)
    | assembling nothing aligned room begun =>
      rcases received_assembles nothing room begun payload with
        assembles | ⟨marker, _, _, decoded, assembles⟩
      · refine assembles.steady aligned ?_
        rw [List.length_append]
        omega
      · have shorter := stream.length_drop_marker decoded within
        refine assembles.steady ((stream.observe_isHunting _).trans aligned) ?_
        rw [observe_layer, observe_configuration]
        exact Nat.lt_of_lt_of_le shorter (Nat.le_add_left _ _)

theorem Steady.align (steady : Steady stream .aligning)
    (answered : stream.answer receipt = .ok payload) :
    let next := Consequence.ofAlignment payload (stream.align payload).value
    Steady next.stream next.task := by
  have ⟨_, within⟩ := answer_within answered
  obtain ⟨bounded, enabled, empty, suits⟩ := steady
  cases suits with
  | aligning nothing =>
    rcases stream.align_cases payload with ⟨_, passed⟩ | ⟨marker, decoded, found⟩
    · rw [passed]
      exact ⟨bounded, enabled, empty, .aligning nothing⟩
    · rw [found]
      refine ⟨?_, nofun, nofun, .idle⟩
      change (stream.leftover ++ _).length < _
      rw [nothing, List.nil_append]
      exact stream.length_drop_marker decoded within

/-- Whatever happens, a stream stays steady. -/
theorem Steady.respond (steady : Steady stream task)
    (responds : Responds stream task incident next) : Steady next.stream next.task := by
  cases responds with
  | signal task => exact steady.signal _
  | read => exact steady.read _
  | receive => exact steady.receive _
  | align begun =>
    obtain ⟨_, _, started⟩ := beginAlignment_eq_ok begun
    change Steady _ .aligning
    rw [started]
    exact ⟨stream.configuration.payload_pos, steady.enabled, fun _ => rfl, .aligning rfl⟩
  | found answered => exact steady.align answered
  | setTimeout => exact ⟨steady.bounded, steady.enabled, steady.empty, .idle⟩
  | activate => exact ⟨steady.bounded, steady.enabled, steady.empty, .activating⟩
  | activated activation => exact steady.completeActivation activation
  | unaligned | missed | unready | expire | overtaken => exact steady.rest

theorem Runs.steady (run : Runs stream task incidents taken replies last final)
    (steady : Steady stream task) : Steady last final := by
  induction run with
  | done => exact steady
  | step responds _ ih => exact ih (steady.respond responds)

theorem Reached.steady (reached : Reached stream task) : Steady stream task := by
  obtain ⟨_, _, _, _, timeout, _, _, _, created, run⟩ := reached
  exact run.steady (create_steady created timeout)

end OutputStream

end FrameStream
