import FrameStream.Proofs.Activation
import FrameStream.Proofs.Deeds
import FrameStream.Proofs.Hunting
import FrameStream.Proofs.Tasks

namespace FrameStream

namespace Process

variable {World Activity Happening Result Measure : Type}
  {process : Process World Activity Happening Result} {measure : World → Measure}
  (occurs : ∀ world happening, measure (process.occur world happening) = measure world)
include occurs

theorem occurs_keep (world : World) (due : List (Nat × Happening)) :
    measure (due.foldl (fun world entry => process.occur world entry.2) world) = measure world := by
  induction due generalizing world with
  | nil => rfl
  | cons entry due ih => exact (ih _).trans (occurs world entry.2)

/-- What no look and nothing that happens changes, no operation changes. -/
theorem run_keeps
    (looks : ∀ now world activity, measure (process.look now world activity).1 = measure world)
    (count now : Nat) (schedule : List (Nat × Happening)) (world : World) (activity : Activity) :
    measure (process.run count now schedule world activity).world = measure world := by
  induction count generalizing now schedule world activity with
  | zero => rfl
  | succ count ih =>
    have kept := looks now world activity
    rw [run]
    generalize process.look now world activity = looked at kept
    obtain ⟨next, found⟩ := looked
    cases found with
    | finished result => exact kept
    | ready activity => exact (ih now schedule next activity).trans kept
    | blocked activity wakeUp =>
      dsimp only
      generalize wakeUp.filter _ = first
      generalize schedule.head?.map _ = coming
      cases first with
      | some wake => exact (ih wake schedule next activity).trans kept
      | none =>
        cases coming with
        | none => exact kept
        | some time => exact (ih _ _ _ activity).trans ((occurs_keep occurs next _).trans kept)

end Process

theorem Channel.update_pathLimit (channel : Channel) (side : Side) (change : Endpoint → Endpoint) :
    (channel.update side change).pathLimit = channel.pathLimit := by
  cases side <;> rfl

theorem Channel.send_pathLimit (channel : Channel) (side : Side) (payload : Bytes) :
    (channel.send side payload).1.pathLimit = channel.pathLimit := by
  unfold send inject
  dsimp only
  split
  · rw [update_pathLimit, update_pathLimit]
  · rfl

namespace Port

theorem send_pathLimit (port : Port) (channel : Channel) (now : Nat) (limit : Duration)
    (payload : Bytes) (call : Call) :
    (port.send channel now limit payload call).2.1.pathLimit = channel.pathLimit := by
  cases call with
  | unmade =>
    simp only [send]
    split
    · rfl
    · rfl
    · rfl
    · exact channel.send_pathLimit _ _
    · exact channel.send_pathLimit _ _
  | due deadline =>
    simp only [send]
    split <;> rfl
  | endless => rfl

theorem await_pathLimit (port : Port) (channel : Channel) (now : Nat) (limit : Duration)
    (size deadline : Nat) :
    (port.await channel now limit size deadline).1.pathLimit = channel.pathLimit := by
  unfold await Channel.receive?
  cases (channel.endpoint port.side).inbox with
  | nil =>
    dsimp only
    split <;> rfl
  | cons datagram rest => exact channel.update_pathLimit _ _

theorem receive_pathLimit (port : Port) (channel : Channel) (now : Nat) (limit : Duration)
    (size : Nat) (call : Call) :
    (port.receive channel now limit size call).2.1.pathLimit = channel.pathLimit := by
  cases call with
  | unmade =>
    simp only [receive]
    split
    · rfl
    · rfl
    · exact await_pathLimit _ _ _ _ _ _
  | due deadline => exact await_pathLimit _ _ _ _ _ _
  | endless => rfl

end Port

namespace InputStream

variable (stream : InputStream)

def identity : Layer × InputConfiguration × String :=
  (stream.layer, stream.configuration, stream.lifecycle.name)

theorem signal_identity (request : Lifecycle.Signal) :
    (stream.signal request).value.identity = stream.identity := by
  cases request <;> rfl

theorem proceed_identity (later : List Bytes) :
    (stream.proceed later).value.1.identity = stream.identity := by
  cases later <;> rfl

theorem beginWrite_identity (frame : Bytes) :
    (stream.beginWrite frame).value.1.identity = stream.identity := by
  unfold beginWrite
  split
  · rfl
  · split
    · rfl
    · split
      · exact stream.proceed_identity _
      · dsimp only
        split
        all_goals exact proceed_identity { stream with syncIndex := _ } _

theorem offer_identity (payload : Bytes) (sent : Nat) (later : List Bytes) :
    (stream.offer payload sent later).value.1.identity = stream.identity := by
  unfold offer
  split
  · rfl
  · exact stream.proceed_identity later

theorem granted_identity (payload : Bytes) (later : List Bytes)
    (answer : Except RateError Duration) :
    (stream.granted payload later answer).value.1.identity = stream.identity := by
  unfold granted
  split
  · rfl
  · split
    · exact stream.offer_identity payload 0 later
    · rfl

theorem rested_identity (payload : Bytes) (later : List Bytes) (outcome : Except StreamError Unit) :
    (stream.rested payload later outcome).value.1.identity = stream.identity := by
  cases outcome <;> rfl

theorem delivered_identity (payload : Bytes) (sent : Nat) (later : List Bytes)
    (outcome : Except StreamError Nat) :
    (stream.delivered payload sent later outcome).value.1.identity = stream.identity := by
  unfold delivered
  split
  · rfl
  · rfl
  · dsimp only
    split
    all_goals exact stream.offer_identity payload _ later

theorem completeActivation_identity {batchSize : UInt16}
    (activation : stream.completeActivation batchSize resume = .ok reached) :
    reached.value.identity = stream.identity := by
  rw [activated_of_complete activation]
  cases resume <;> rfl

end InputStream

namespace InputSide

variable {quantity : Type}

/-- An input stream stays the one it was made as, and its channel keeps its limit. -/
structure Keeps (shared : Shared) (input : InputSide quantity) (looked : Looked quantity) :
    Prop where
  identity_eq : looked.value.2.1.stream.identity = input.stream.identity
  pathLimit_eq : looked.value.1.channel.pathLimit = shared.channel.pathLimit

variable (now : Nat) (shared : Shared) (input : InputSide quantity)

theorem follow_keeps {step : InputStream.WriteStep}
    (kept : step.value.1.identity = input.stream.identity) :
    Keeps shared input (follow shared input step) :=
  ⟨kept, rfl⟩

theorem look_keeps [TokenQuantity quantity] (activity : InputActivity) :
    Keeps shared input (input.look now shared activity) := by
  cases activity with
  | activating batchSize resume deadline =>
    simp only [look, lookActivating]
    split
    · split
      · exact ⟨rfl, rfl⟩
      · exact ⟨input.stream.completeActivation_identity ‹_›, rfl⟩
    · split <;> exact ⟨rfl, rfl⟩
  | writing point call =>
    cases point with
    | asking payload later =>
      exact ⟨input.stream.granted_identity payload later _, rfl⟩
    | resting wait payload later =>
      simp only [look, lookResting]
      split
      · exact follow_keeps shared input (input.stream.rested_identity payload later _)
      · split
        · split
          · exact follow_keeps shared input (input.stream.rested_identity payload later _)
          · exact ⟨rfl, rfl⟩
        · exact ⟨rfl, rfl⟩
    | sending payload sent later =>
      simp only [look, lookSending]
      split
      · exact follow_keeps shared input (input.stream.delivered_identity payload sent later _)
      · have limit := input.port.send_pathLimit shared.channel now input.stream.timeout
          (payload.drop sent) call
        split
        · exact ⟨(follow_keeps shared input
            (input.stream.delivered_identity payload sent later _)).identity_eq, limit⟩
        · exact ⟨rfl, limit⟩

theorem activate_keeps (requested : UInt16) (resume : Bool) :
    Keeps shared input (input.activate now shared requested resume) := by
  unfold activate
  split <;> exact ⟨rfl, rfl⟩

theorem write_keeps (frame : Bytes) : Keeps shared input (input.write shared frame) :=
  ⟨input.stream.beginWrite_identity frame, rfl⟩

end InputSide

namespace OutputSide

structure Keeps (shared : Shared) (output : OutputSide) (looked : Looked) : Prop where
  identity_eq : looked.value.2.1.stream.identity = output.stream.identity
  pathLimit_eq : looked.value.1.channel.pathLimit = shared.channel.pathLimit

variable (now : Nat) (shared : Shared) (output : OutputSide)

theorem Performs.keeps {output : OutputSide} {looked : Looked}
    (performs : Performs output.stream task looked)
    (limit : looked.value.1.channel.pathLimit = shared.channel.pathLimit) :
    Keeps shared output looked := by
  obtain ⟨_, _, _, _, run, _⟩ := performs
  exact ⟨run.identity_eq, limit⟩

theorem receive_keeps (call : Call) :
    (receive now shared output call).1.channel.pathLimit = shared.channel.pathLimit := by
  unfold receive
  split
  · rfl
  · exact output.port.receive_pathLimit _ _ _ _ _

theorem look_keeps (activity : OutputActivity) :
    Keeps shared output (output.look now shared activity) := by
  refine (output.look_performs now shared activity).keeps shared ?_
  cases activity with
  | activating batchSize resume deadline =>
    simp only [look, lookActivating]
    split
    · split <;> rfl
    · split <;> rfl
  | reading point call =>
    have limit := receive_keeps now shared output call
    simp only [look, lookReading]
    split <;> exact limit
  | aligning call =>
    have limit := receive_keeps now shared output call
    simp only [look, lookAligning]
    split <;> exact limit

theorem activate_keeps (requested : UInt16) (resume : Bool) :
    Keeps shared output (output.activate now shared requested resume) := by
  unfold activate
  split <;> exact ⟨rfl, rfl⟩

theorem align_keeps : Keeps shared output (output.align shared) := by
  refine (output.align_performs shared).keeps shared ?_
  unfold align
  split <;> rfl

theorem read_keeps (size : Nat) : Keeps shared output (output.read shared size) :=
  ⟨output.stream.beginRead_identity size, rfl⟩

end OutputSide

namespace Session

/-- What the streams of a session were made of, with the limit of the channel. -/
def makeup (session : Session) :
    Option (Layer × InputConfiguration × String) × Option (Layer × OutputConfiguration × String) ×
      Nat :=
  (session.input?.map (·.stream.identity), session.output?.map (·.stream.identity),
    session.shared.channel.pathLimit)

theorem onInput_makeup {operation : InputSide Float → InputSide.Looked Float} (session : Session)
    (keeps : ∀ input, InputSide.Keeps session.shared input (operation input)) :
    (session.onInput operation).1.makeup = session.makeup := by
  obtain ⟨shared, shaper, registry, input?, output?, events⟩ := session
  cases input? with
  | none => rfl
  | some input =>
    obtain ⟨identity, limit⟩ := keeps input
    exact Prod.ext (congrArg some identity) (Prod.ext rfl limit)

theorem onOutput_makeup {operation : OutputSide → OutputSide.Looked} (session : Session)
    (keeps : ∀ output, OutputSide.Keeps session.shared output (operation output)) :
    (session.onOutput operation).1.makeup = session.makeup := by
  obtain ⟨shared, shaper, registry, input?, output?, events⟩ := session
  cases output? with
  | none => rfl
  | some output =>
    obtain ⟨identity, limit⟩ := keeps output
    exact Prod.ext rfl (Prod.ext (congrArg some identity) limit)

theorem look_makeup (now : Nat) (session : Session) (activity : Activity) :
    (process.look now session activity).1.makeup = session.makeup := by
  cases activity with
  | input activity =>
    exact session.onInput_makeup fun input => input.look_keeps now session.shared activity
  | output activity =>
    exact session.onOutput_makeup fun output => output.look_keeps now session.shared activity

theorem occur_makeup (session : Session) (happening : Happening) :
    (process.occur session happening).makeup = session.makeup := by
  change (session.occur happening).makeup = _
  obtain ⟨shared, shaper, registry, input?, output?, events⟩ := session
  cases happening with
  | readiness isReady => rfl
  | arrival datagram =>
    cases output? with
    | none => rfl
    | some output =>
      have limit := shared.channel.update_pathLimit output.port.side fun endpoint =>
        { endpoint with inbox := endpoint.inbox ++ [datagram] }
      exact congrArg (fun limit => (_, _, limit)) limit
  | signal role request =>
    cases role with
    | input =>
      cases input? with
      | none => cases output? <;> rfl
      | some input =>
        exact congrArg (fun one => (some one, _, _)) (input.stream.signal_identity request)
    | output =>
      cases output? with
      | none => cases input? <;> rfl
      | some output =>
        have same := output.stream.signal_identity request
        cases input? <;> exact congrArg (fun one => (_, some one, _)) same

theorem follow_makeup (now : Nat) (schedule : Schedule) (started : Looked) :
    (follow now schedule started).world.makeup = started.1.makeup := by
  obtain ⟨session, found⟩ := started
  have run (activity : Activity) :=
    Process.run_keeps occur_makeup look_makeup looksLimit now schedule session activity
  cases found with
  | finished result => rfl
  | ready activity => exact run activity
  | blocked activity wakeUp => exact run activity

theorem perform_makeup (session : Session) (now : Nat) (deed : Deed) :
    (session.perform now deed).world.makeup = session.makeup := by
  cases deed with
  | activate role requested resume schedule =>
    refine (follow_makeup now schedule _).trans ?_
    cases role with
    | input =>
      exact session.onInput_makeup fun input =>
        input.activate_keeps now session.shared requested resume
    | output =>
      exact session.onOutput_makeup fun output =>
        output.activate_keeps now session.shared requested resume
  | write frame schedule =>
    exact (follow_makeup now schedule _).trans <|
      session.onInput_makeup fun input => input.write_keeps session.shared frame
  | read size? schedule =>
    exact (follow_makeup now schedule _).trans <|
      session.onOutput_makeup fun output => output.read_keeps session.shared _
  | align schedule =>
    exact (follow_makeup now schedule _).trans <|
      session.onOutput_makeup fun output => output.align_keeps session.shared
  | flush =>
    obtain ⟨shared, shaper, registry, input?, output?, events⟩ := session
    cases input? <;> rfl
  | setTimeout role timeout =>
    obtain ⟨shared, shaper, registry, input?, output?, events⟩ := session
    cases role with
    | input => cases input? <;> rfl
    | output => cases output? <;> rfl
  | setScript role script =>
    obtain ⟨shared, shaper, registry, input?, output?, events⟩ := session
    cases role with
    | input => cases input? <;> rfl
    | output => cases output? <;> rfl
  | setChunkLimit limit => rfl
  | closePeer => rfl
  | occur happening => exact session.occur_makeup happening
  | pass milliseconds => rfl

/-- Whatever is done with a session, its streams stay the ones they were made as. -/
theorem course_makeup (session : Session) (now : Nat) (deeds : List Deed) :
    (session.course now deeds).world.makeup = session.makeup := by
  induction deeds generalizing session now with
  | nil => rfl
  | cons deed deeds ih =>
    have kept := session.perform_makeup now deed
    rw [course]
    dsimp only
    cases (session.perform now deed).result with
    | none => exact kept
    | some result => exact (ih _ _).trans kept

end Session

end FrameStream
