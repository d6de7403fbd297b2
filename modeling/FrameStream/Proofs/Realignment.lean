import FrameStream.Proofs.Hunting
import FrameStream.Proofs.Retention

/-!
How an output stream finds its place again after a timeout. A timeout makes it hunt if some of the
frame was there; a marker alone does not count. From a hunt on, whatever is held came after a marker
that was taken since, and so did the next frame, unless an operation gives up what it has without
hunting again.
-/

namespace FrameStream

/-- A read or an alignment that was at work fails, and the stream does not hunt for what it lost. -/
inductive Strays : Task → Incident → Consequence → Prop where
  | read : next.reply? = some (.error error) → next.stream.isHunting = false →
      Strays (.reading point) (.receive receipt) next
  | align : next.reply? = some (.error error) → next.stream.isHunting = false →
      Strays .aligning (.receive receipt) next

/-- The data behind the marker of one of these payloads, with the payloads after it. -/
inductive Behind (markerSize : Nat) : List Bytes → Bytes → Prop where
  | intro : SyncMarker.decode? payload markerSize = some marker →
      Behind markerSize (earlier ++ payload :: later) (payload.drop markerSize ++ later.flatten)

namespace Behind

variable {markerSize : Nat}

theorem last (taken : List Bytes) (decoded : SyncMarker.decode? payload markerSize = some marker) :
    Behind markerSize (taken ++ [payload]) (payload.drop markerSize) := by
  have behind : Behind markerSize (taken ++ [payload]) (payload.drop markerSize ++ [].flatten) :=
    .intro decoded
  rwa [List.flatten_nil, List.append_nil] at behind

theorem append (behind : Behind markerSize taken data) (more : List Bytes) :
    Behind markerSize (taken ++ more) (data ++ more.flatten) := by
  cases behind with
  | @intro _ _ _ later decoded =>
    rw [List.append_assoc, List.cons_append, List.append_assoc, ← List.flatten_append]
    exact .intro decoded

theorem prepend (behind : Behind markerSize taken data) (before : List Bytes) :
    Behind markerSize (before ++ taken) data := by
  cases behind with
  | intro decoded =>
    rw [← List.append_assoc]
    exact .intro decoded

end Behind

/-- A frame that starts with the data behind a marker of one of these payloads. -/
structure Placed (markerSize frameSize : Nat) (taken : List Bytes) (frame : Bytes) : Prop where
  length_eq : frame.length = frameSize
  behind : ∃ data, Behind markerSize taken data ∧ frame <+: data

theorem Placed.append (placed : Placed markerSize frameSize taken frame) (more : List Bytes) :
    Placed markerSize frameSize (taken ++ more) frame := by
  obtain ⟨same, data, behind, starts⟩ := placed
  exact ⟨same, _, behind.append more, starts.trans (List.prefix_append _ _)⟩

namespace OutputStream

/-- How a stream gets back to its place: it hunts, it looks for nothing but a marker, or it holds
the data behind one that it took since. -/
inductive Regains (stream : OutputStream) (task : Task) (taken : List Bytes) : Prop where
  | hunting : stream.isHunting = true → Regains stream task taken
  | searching : task.searches = true → Regains stream task taken
  | behind : Behind stream.configuration.markerSize taken (task.held stream) →
      Regains stream task taken

/-- An incident leaves a stream on its way back, or returns a frame from the right place. -/
inductive Recovers (markerSize frameSize : Nat) (taken : List Bytes) (next : Consequence) :
    Prop where
  | goes_on : next.reply?.bind frame? = none → Regains next.stream next.task taken →
      Recovers markerSize frameSize taken next
  | arrives : next.reply? = some (.ok (.frame frame)) →
      Placed markerSize frameSize taken frame → Recovers markerSize frameSize taken next

variable {stream : OutputStream} {task : Task}

theorem Assembles.recovers (assembles : Assembles stream data state)
    (behind : Behind stream.configuration.markerSize taken data) (taken? : Option Bytes) :
    Recovers stream.configuration.markerSize stream.layer.frameSize taken
      (.ofRead taken? state) := by
  cases assembles with
  | short => exact .goes_on rfl (.behind behind)
  | whole enough =>
    exact .arrives rfl ⟨List.length_take_of_le enough, data, behind, List.take_prefix ..⟩

/-- An operation that fails and does not stray hunts. -/
theorem recovers_of_failed {next : Consequence} {markerSize frameSize : Nat}
    (failed : next.reply? = some (.error error)) (hunting : next.stream.isHunting = true) :
    Recovers markerSize frameSize taken next :=
  .goes_on (by rw [failed]; rfl) (.hunting hunting)

theorem taken_ofRead (taken? : Option Bytes) (state : ReadState) :
    (Consequence.ofRead taken? state).taken? = taken? := by
  obtain ⟨_, waiting | finished⟩ := state <;> rfl

theorem Responds.fails_hunting (responds : Responds stream (.reading point) (.receive receipt) next)
    (failed : stream.answer receipt = .error error)
    (kept : ¬ Strays (.reading point) (.receive receipt) next) :
    next.reply? = some (.error error) ∧ next.stream.isHunting = true := by
  cases responds with
  | receive =>
    have replied : (Consequence.ofRead (stream.answer receipt).toOption
        (stream.received point (stream.answer receipt)).value).reply? = some (.error error) := by
      rw [failed]
      cases point <;> rfl
    refine ⟨replied, ?_⟩
    rw [← Bool.not_eq_false]
    exact fun aligned => kept (.read replied aligned)

theorem Responds.hunting_recovers
    (responds : Responds stream (.reading .hunting) (.receive receipt) next)
    (steady : Steady stream (.reading .hunting))
    (kept : ¬ Strays (.reading .hunting) (.receive receipt) next) (taken : List Bytes) :
    Recovers stream.configuration.markerSize stream.layer.frameSize
      (taken ++ next.taken?.toList) next := by
  cases answered : stream.answer receipt with
  | error error =>
    obtain ⟨failed, hunting⟩ := responds.fails_hunting answered kept
    exact recovers_of_failed failed hunting
  | ok payload =>
    cases responds with
    | receive =>
      rw [answered, taken_ofRead]
      cases steady.suits with
      | hunting nothing =>
        rcases received_hunting nothing payload with ⟨_, passed⟩ | ⟨marker, decoded, assembles⟩
        · rw [passed]
          exact .goes_on rfl (.searching rfl)
        · exact assembles.recovers (.last taken decoded) _

theorem Responds.behind_recovers
    (responds : Responds stream (.reading (.assembling filled started)) (.receive receipt) next)
    (steady : Steady stream (.reading (.assembling filled started)))
    (kept : ¬ Strays (.reading (.assembling filled started)) (.receive receipt) next)
    (behind : Behind stream.configuration.markerSize taken filled) :
    Recovers stream.configuration.markerSize stream.layer.frameSize
      (taken ++ next.taken?.toList) next := by
  cases answered : stream.answer receipt with
  | error error =>
    obtain ⟨failed, hunting⟩ := responds.fails_hunting answered kept
    exact recovers_of_failed failed hunting
  | ok payload =>
    cases responds with
    | receive =>
      rw [answered, taken_ofRead]
      cases steady.suits with
      | assembling nothing _ room begun =>
        rcases received_assembles nothing room begun payload with
          assembles | ⟨marker, _, _, decoded, assembles⟩
        · have longer := behind.append [payload]
          rw [List.flatten_singleton] at longer
          exact assembles.recovers longer _
        · have found : Behind (stream.observe marker.index).value.configuration.markerSize
              (taken ++ [payload]) (payload.drop stream.configuration.markerSize) := by
            rw [observe_configuration]
            exact .last taken decoded
          have recovers := assembles.recovers found (some payload)
          rwa [observe_configuration, observe_layer] at recovers

theorem Responds.align_recovers (responds : Responds stream .aligning (.receive receipt) next)
    (steady : Steady stream .aligning) (kept : ¬ Strays .aligning (.receive receipt) next)
    (taken : List Bytes) (frameSize : Nat) :
    Recovers stream.configuration.markerSize frameSize (taken ++ next.taken?.toList) next := by
  cases responds with
  | missed =>
    refine recovers_of_failed rfl ?_
    rw [← Bool.not_eq_false]
    exact fun aligned => kept (.align rfl aligned)
  | @found _ payload =>
    cases steady.suits with
    | aligning nothing =>
      rcases stream.align_cases payload with ⟨_, passed⟩ | ⟨marker, decoded, found⟩
      · rw [passed]
        exact .goes_on rfl (.searching rfl)
      · rw [found]
        refine .goes_on rfl (.behind ?_)
        change Behind stream.configuration.markerSize (taken ++ [payload]) (stream.leftover ++ _)
        rw [nothing, List.nil_append]
        exact .last taken decoded

/-- A read starts from what the stream stands at: it hunts, or it has what is left over. -/
theorem read_recovers (regains : Regains stream .idle taken) (size : Nat) :
    Recovers stream.configuration.markerSize stream.layer.frameSize taken
      (.ofRead none (stream.beginRead size).value) := by
  rcases stream.beginRead_cases size with ⟨error, refused⟩ | ⟨_, _, hunts | ⟨aligned, assembles⟩⟩
  · rw [refused]
    cases regains with
    | hunting hunting => exact .goes_on rfl (.hunting hunting)
    | searching searching => cases searching
    | behind behind => exact .goes_on rfl (.behind behind)
  · rw [hunts.2.2]
    exact .goes_on rfl (.searching rfl)
  · cases regains with
    | hunting hunting =>
      rw [aligned] at hunting
      cases hunting
    | searching searching => cases searching
    | behind behind => exact assembles.recovers behind none

/-- What matters of a stream on its way back is whether it hunts, what it looks for and what it
holds. -/
theorem Regains.carry {later : OutputStream} {next : Task} (regains : Regains stream task taken)
    (alike : Alike later stream) (searches : next.searches = task.searches)
    (held : next.held later = task.held stream) : Regains later next taken := by
  cases regains with
  | hunting hunting => exact .hunting (alike.isHunting.trans hunting)
  | searching searching => exact .searching (searches.trans searching)
  | behind behind =>
    refine .behind ?_
    rwa [alike.configuration, held]

/-- Whatever happens to a stream on its way back, short of straying and forgetting, it stays on its
way or returns a frame from the right place. -/
theorem Responds.recovers (responds : Responds stream task incident next)
    (steady : Steady stream task) (regains : Regains stream task taken)
    (kept : ¬ Strays task incident next) (known : ¬ Forgets task incident next) :
    Recovers stream.configuration.markerSize stream.layer.frameSize
      (taken ++ next.taken?.toList) next := by
  have quiet {next : Consequence} (silent : next.taken? = none)
      (unanswered : next.reply?.bind frame? = none)
      (regains : Regains next.stream next.task taken) :
      Recovers stream.configuration.markerSize stream.layer.frameSize
        (taken ++ next.taken?.toList) next := by
    refine .goes_on unanswered ?_
    rwa [silent, Option.toList_none, List.append_nil]
  cases responds with
  | signal task =>
    exact quiet rfl rfl (regains.carry ⟨rfl, rfl, rfl⟩ rfl (held_signal stream _ task))
  | setTimeout | unaligned | unready | activate | expire | overtaken =>
    exact quiet rfl rfl (regains.carry ⟨rfl, rfl, rfl⟩ rfl rfl)
  | read =>
    rw [taken_ofRead, Option.toList_none, List.append_nil]
    exact read_recovers regains _
  | @receive point receipt =>
    have received : Responds stream (.reading point) (.receive receipt) _ := .receive
    cases point with
    | hunting => exact received.hunting_recovers steady kept taken
    | assembling filled started =>
      cases regains with
      | hunting hunting =>
        cases steady.suits with
        | assembling _ aligned =>
          rw [aligned] at hunting
          cases hunting
      | searching searching => cases searching
      | behind behind => exact received.behind_recovers steady kept behind
  | align => exact quiet rfl rfl (.searching rfl)
  | missed failed => exact Responds.align_recovers (.missed failed) steady kept taken _
  | found answered => exact Responds.align_recovers (.found answered) steady kept taken _
  | @activated resume _ _ activation =>
    cases resume with
    | false => exact absurd (.intro rfl) known
    | true =>
      obtain ⟨lifecycle, value⟩ := completeActivation_value activation
      refine quiet rfl rfl ?_
      rw [value]
      exact regains.carry ⟨rfl, rfl, rfl⟩ rfl rfl

/-- In the course of these incidents no operation strays, and nothing is forgotten. -/
def HoldsCourse : OutputStream → Task → List Incident → Prop :=
  Throughout fun _ stream task incident => ∀ next, Responds stream task incident next →
    ¬ Strays task incident next ∧ ¬ Forgets task incident next

theorem holdsCourse_nil : HoldsCourse stream task [] := throughout_nil

theorem holdsCourse_cons (responds : Responds stream task incident next)
    (kept : ¬ Strays task incident next) (known : ¬ Forgets task incident next)
    (rest : HoldsCourse next.stream next.task incidents) :
    HoldsCourse stream task (incident :: incidents) := by
  refine throughout_cons responds ?_ rest
  intro other same
  rw [← responds.unique same]
  exact ⟨kept, known⟩

/-- The first frame that is returned on the way back comes from the right place. -/
theorem Runs.returns_placed (run : Runs stream task incidents taken replies last final)
    (steady : Steady stream task) (regains : Regains stream task before)
    (holds : HoldsCourse stream task incidents)
    (first : (replies.filterMap frame?).head? = some frame) :
    Placed stream.configuration.markerSize stream.layer.frameSize (before ++ taken) frame := by
  induction run generalizing before with
  | done => cases first
  | @step stream task incident next incidents taken replies last final responds _ ih =>
    have ⟨kept, known⟩ := holds.head next responds
    have same := responds.identity_eq
    have layer : next.stream.layer = stream.layer := congrArg (·.1) same
    have configuration : next.stream.configuration = stream.configuration := congrArg (·.2.1) same
    rw [layer, configuration] at ih
    rw [← List.append_assoc]
    rw [List.filterMap_append] at first
    cases responds.recovers steady regains kept known with
    | goes_on unanswered regains =>
      have none : next.reply?.toList.filterMap frame? = [] := by
        cases replied : next.reply? with
        | none => rfl
        | some reply =>
          rw [replied] at unanswered
          exact List.filterMap_cons_none unanswered
      rw [none, List.nil_append] at first
      exact ih (steady.respond responds) regains (holds.tail responds) first
    | arrives replied placed =>
      rw [replied] at first
      cases first
      exact placed.append taken

theorem finished_of_replied {taken? : Option Bytes} {state : ReadState}
    (replied : (Consequence.ofRead taken? state).reply? = some (.error error)) :
    state.2 = .finished (.error error) := by
  obtain ⟨_, waiting | _ | _⟩ := state
  · cases replied
  · cases replied
    rfl
  · cases replied

/-- After a timeout a stream hunts if it did before, or if some of the frame was there. -/
theorem Responds.hunts_iff (responds : Responds stream (.reading point) (.receive receipt) next)
    (steady : Steady stream (.reading point)) (enabled : stream.configuration.syncEnabled = true)
    (failed : next.reply? = some (.error error)) (timedOut : error.isTimeout = true) :
    next.stream.isHunting = true ↔ stream.isHunting = true ∨ point.held ≠ [] := by
  cases responds with
  | receive =>
    generalize stream.answer receipt = answered at failed ⊢
    cases answered with
    | ok payload =>
      exact absurd (finished_of_replied failed) (received_payload_ne_error steady.suits payload _)
    | error other =>
      have same := finished_of_replied failed
      rw [received_error] at same
      cases same
      rw [stream_ofRead]
      cases steady.suits with
      | hunting nothing => exact (or_iff_left fun more => more rfl).symm
      | @assembling started filled _ aligned =>
        cases filled with
        | nil => simp [received, loseFrame, ReadPoint.held, aligned]
        | cons => simp [received, loseFrame, ReadPoint.held, timedOut, enabled]

/-- A read that times out in a stream with markers leaves it hunting if it hunted before or if the
frame held any data, and only then. From a hunt on, the next frame starts with the data behind the
marker of a payload received after the timeout, unless an operation strays or the past is
forgotten. -/
theorem frames_after_timeout (reached : Reached stream (.reading point))
    (enabled : stream.configuration.syncEnabled = true)
    (responds : Responds stream (.reading point) (.receive receipt) next)
    (failed : next.reply? = some (.error error)) (timedOut : error.isTimeout = true) :
    (next.stream.isHunting = true ↔ stream.isHunting = true ∨ point.held ≠ []) ∧
      (next.stream.isHunting = true → ∀ incidents taken replies last final frame,
        Runs next.stream next.task incidents taken replies last final →
        HoldsCourse next.stream next.task incidents →
        (replies.filterMap frame?).head? = some frame →
        Placed stream.configuration.markerSize stream.layer.frameSize taken frame) := by
  have steady := reached.steady
  refine ⟨responds.hunts_iff steady enabled failed timedOut, ?_⟩
  intro hunting incidents taken replies last final frame run holds first
  have regains : Regains next.stream next.task [] := .hunting hunting
  have placed := run.returns_placed (steady.respond responds) regains holds first
  have same := responds.identity_eq
  rwa [show next.stream.layer = stream.layer from congrArg (·.1) same,
    show next.stream.configuration = stream.configuration from congrArg (·.2.1) same] at placed

private def beaconed : OutputConfiguration :=
  (OutputConfiguration.ofParameters { maximumPayload := 64, syncEnabled := true }
    ⟨"edge", .deviceToHost, 4, 1⟩).toOption.get rfl

private def beaconedStream (isActivated isHunting : Bool) (lastIndex : UInt32)
    (statistics : OutputStatistics) : OutputStream :=
  { layer := ⟨"edge", .deviceToHost, 4, 1⟩, configuration := beaconed,
    lifecycle := { name := "edge", isActivated }, timeout := defaultTimeout, batchSize := 1,
    isHunting, lastIndex, statistics }

private def readTimeout : StreamError := .timeout "receive" defaultTimeout

private theorem beaconed_created :
    create ⟨"edge", .deviceToHost, 4, 1⟩ beaconed 64 =
      .ok ⟨beaconedStream false false SyncMarker.unobserved {},
        [.outputConfigured "edge" 4 64 true 8]⟩ := rfl

private theorem beaconed_activated :
    Runs (beaconedStream false false SyncMarker.unobserved {}) .idle
      [.activate 0 false, .settle true] [] [.ok .done]
      (beaconedStream true false SyncMarker.unobserved {}) .idle :=
  Runs.step (Responds.activate rfl) (Runs.step (Responds.activated rfl) Runs.done)

/-- The hunt that a timeout behind two bytes of data leads to, and the frame that ends it. -/
theorem frames_after_timeout_of_lost_frame :
    ∃ (stream last : OutputStream) (next : Consequence) (incidents : List Incident)
      (taken : List Bytes) (replies : List (Except StreamError Reply)),
      Reached stream (.reading (.assembling [1, 2] true)) ∧
        Responds stream (.reading (.assembling [1, 2] true)) (.receive (.error readTimeout)) next ∧
        next.stream.isHunting = true ∧
        Runs next.stream next.task incidents taken replies last .idle ∧
        taken = [[9], SyncMarker.encode ⟨1⟩ 8 ++ [5, 6], [7, 8]] ∧
        replies = [.ok (.frame [5, 6, 7, 8])] ∧ Placed 8 4 taken [5, 6, 7, 8] := by
  have opened : Runs (beaconedStream true false SyncMarker.unobserved {}) .idle
      [.read 4, .receive (.ok (SyncMarker.encode ⟨0⟩ 8 ++ [1, 2]))]
      [SyncMarker.encode ⟨0⟩ 8 ++ [1, 2]] [] (beaconedStream true false 0 {})
      (.reading (.assembling [1, 2] true)) :=
    Runs.step Responds.read (Runs.step Responds.receive Runs.done)
  have reached : Reached (beaconedStream true false 0 {}) (.reading (.assembling [1, 2] true)) :=
    ⟨_, _, _, _, defaultTimeout, _, _, _, beaconed_created, beaconed_activated.append opened⟩
  have lost : Responds (beaconedStream true false 0 {}) (.reading (.assembling [1, 2] true))
      (.receive (.error readTimeout))
      (.refuse (beaconedStream true true 0 { discardedFrames := 1 }) readTimeout) :=
    .receive
  have found : Runs (beaconedStream true true 0 { discardedFrames := 1 }) .idle
      [.read 4, .receive (.ok [9]), .receive (.ok (SyncMarker.encode ⟨1⟩ 8 ++ [5, 6])),
        .receive (.ok [7, 8])]
      [[9], SyncMarker.encode ⟨1⟩ 8 ++ [5, 6], [7, 8]] [.ok (.frame [5, 6, 7, 8])]
      (beaconedStream true false 1 { resyncs := 1, discardedPayloads := 1, discardedFrames := 1 })
      .idle :=
    Runs.step Responds.read (Runs.step Responds.receive
      (Runs.step Responds.receive (Runs.step Responds.receive Runs.done)))
  have holds : HoldsCourse (beaconedStream true true 0 { discardedFrames := 1 }) .idle
      [.read 4, .receive (.ok [9]), .receive (.ok (SyncMarker.encode ⟨1⟩ 8 ++ [5, 6])),
        .receive (.ok [7, 8])] :=
    holdsCourse_cons .read nofun nofun
      (holdsCourse_cons .receive nofun nofun
        (holdsCourse_cons .receive nofun nofun
          (holdsCourse_cons .receive nofun nofun holdsCourse_nil)))
  have after := frames_after_timeout reached rfl lost rfl rfl
  exact ⟨_, _, _, _, _, _, reached, lost, rfl, found, rfl, rfl,
    after.2 rfl _ _ _ _ _ _ found holds rfl⟩

/-- A timeout right behind a marker does not make a stream hunt, and the next read takes whatever
comes for a frame. -/
theorem timeout_after_marker_loses_place :
    ∃ (stream last : OutputStream) (next : Consequence),
      (∃ made, create ⟨"edge", .deviceToHost, 4, 1⟩ beaconed 64 = .ok made ∧
        Runs made.value .idle
          [.activate 0 false, .settle true, .read 4, .receive (.ok (SyncMarker.encode ⟨0⟩ 8))]
          [SyncMarker.encode ⟨0⟩ 8] [.ok .done] stream (.reading (.assembling [] true))) ∧
        Responds stream (.reading (.assembling [] true)) (.receive (.error readTimeout)) next ∧
        next.reply? = some (.error readTimeout) ∧ readTimeout.isTimeout = true ∧
        next.stream.isHunting = false ∧
        Runs next.stream next.task [.read 4, .receive (.ok [1, 2, 3, 4])] [[1, 2, 3, 4]]
          [.ok (.frame [1, 2, 3, 4])] last .idle ∧
        SyncMarker.decode? [1, 2, 3, 4] beaconed.markerSize = none := by
  have opened : Runs (beaconedStream true false SyncMarker.unobserved {}) .idle
      [.read 4, .receive (.ok (SyncMarker.encode ⟨0⟩ 8))] [SyncMarker.encode ⟨0⟩ 8] []
      (beaconedStream true false 0 {}) (.reading (.assembling [] true)) :=
    Runs.step Responds.read (Runs.step Responds.receive Runs.done)
  have missed : Responds (beaconedStream true false 0 {}) (.reading (.assembling [] true))
      (.receive (.error readTimeout)) (.refuse (beaconedStream true false 0 {}) readTimeout) :=
    .receive
  have taken : Runs (beaconedStream true false 0 {}) .idle [.read 4, .receive (.ok [1, 2, 3, 4])]
      [[1, 2, 3, 4]] [.ok (.frame [1, 2, 3, 4])] (beaconedStream true false 0 {}) .idle :=
    Runs.step Responds.read (Runs.step Responds.receive Runs.done)
  exact ⟨_, _, _, ⟨_, beaconed_created, beaconed_activated.append opened⟩, missed, rfl, rfl, rfl,
    taken, rfl⟩

end OutputStream

end FrameStream
