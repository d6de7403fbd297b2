import FrameStream.Proofs.Interruption
import FrameStream.Proofs.Provenance

namespace FrameStream

/-- The data of a payload: what is after the marker if one is looked for and found. -/
def OutputConfiguration.dataOf (configuration : OutputConfiguration) (looks : Bool)
    (payload : Bytes) : Bytes :=
  if configuration.syncEnabled && looks &&
      (SyncMarker.decode? payload configuration.markerSize).isSome then
    payload.drop configuration.markerSize
  else payload

theorem OutputConfiguration.dataOf_eq_self {configuration : OutputConfiguration}
    (plain : configuration.syncEnabled = true → looks = true →
      SyncMarker.decode? payload configuration.markerSize = none) :
    configuration.dataOf looks payload = payload := by
  refine if_neg fun found => ?_
  rw [Bool.and_eq_true, Bool.and_eq_true] at found
  obtain ⟨⟨enabled, looking⟩, found⟩ := found
  rw [plain enabled looking] at found
  cases found

/-- The data of payloads of which only the first can open with a marker. -/
def OutputConfiguration.data (configuration : OutputConfiguration) (looks : Bool) :
    List Bytes → Bytes
  | [] => []
  | payload :: payloads => configuration.dataOf looks payload ++ payloads.flatten

/-- The size of the marker that the next payload opens with, if it opens with one. -/
def OutputConfiguration.openingSize (configuration : OutputConfiguration)
    (payloads : List Bytes) : Nat :=
  if configuration.syncEnabled &&
      (SyncMarker.decode? (payloads.headD []) configuration.markerSize).isSome then
    configuration.markerSize
  else 0

namespace OutputConfiguration

variable {configuration : OutputConfiguration} {payloads : List Bytes}

theorem openingSize_le : configuration.openingSize payloads ≤ (payloads.headD []).length := by
  unfold openingSize
  split
  · rename_i found
    rw [Bool.and_eq_true] at found
    obtain ⟨marker, decoded⟩ := Option.isSome_iff_exists.mp found.2
    exact (SyncMarker.length_of_decode? decoded).2
  · exact Nat.zero_le _

theorem data_unlooked : configuration.data false payloads = payloads.flatten := by
  cases payloads with
  | nil => rfl
  | cons payload payloads => simp [data, dataOf]

/-- What was taken so far holds the first of the data. -/
theorem data_prefix (arrived : taken <+: payloads) :
    configuration.data looks taken <+: configuration.data looks payloads := by
  cases taken with
  | nil => exact List.nil_prefix
  | cons payload taken =>
    obtain ⟨rest, rfl⟩ := arrived
    refine ⟨rest.flatten, ?_⟩
    rw [List.cons_append, data, data, List.flatten_append, List.append_assoc]

/-- Where markers are looked for the data starts behind the one that opens the first payload. -/
theorem data_looked :
    configuration.data true payloads =
      payloads.flatten.drop (configuration.openingSize payloads) := by
  cases payloads with
  | nil => exact List.drop_nil.symm
  | cons payload payloads =>
    have within : configuration.openingSize (payload :: payloads) ≤ payload.length := openingSize_le
    rw [List.flatten_cons, List.drop_append_of_le_length within, data, dataOf, openingSize,
      Bool.and_true, List.headD_cons]
    split <;> rfl

end OutputConfiguration

def Task.looks (stream : OutputStream) : Task → Bool
  | .reading point => point.looks
  | .aligning => true
  | .idle | .activating .. => stream.leftover.isEmpty

/-- A task at which a stream does not search for the next marker and will not forget anything. -/
def Task.IsKeeping : Task → Prop
  | .idle | .activating _ true | .reading (.assembling ..) => True
  | .aligning | .activating _ false | .reading .hunting => False

/-- What happens to a stream when nothing is lost and nothing is to be forgotten. A stream that is
not active does not come to see that a receive would fail. -/
def Incident.IsLossless (stream : OutputStream) : Incident → Prop
  | .align | .activate _ false => False
  | .receive (.error _) => stream.lifecycle.state ≠ .active
  | _ => True

namespace OutputStream

/-- A stream that has lost nothing and is not about to forget anything. -/
structure Keeps (stream : OutputStream) (task : Task) : Prop where
  steady : Steady stream task
  aligned : stream.isHunting = false
  keeping : task.IsKeeping

/-- Two streams of one layer and one configuration, of which both hunt or neither does. -/
structure Alike (stream origin : OutputStream) : Prop where
  layer : stream.layer = origin.layer
  configuration : stream.configuration = origin.configuration
  isHunting : stream.isHunting = origin.isHunting

theorem Alike.trans (first : Alike stream middle) (second : Alike middle origin) :
    Alike stream origin :=
  ⟨first.layer.trans second.layer, first.configuration.trans second.configuration,
    first.isHunting.trans second.isHunting⟩

variable {stream : OutputStream}

theorem observe_alike (index : UInt32) : Alike (stream.observe index).value stream :=
  ⟨observe_layer .., observe_configuration .., observe_isHunting ..⟩

theorem beginFrame_gathers (stream : OutputStream) :
    Gathers stream stream.leftover (!stream.leftover.isEmpty) (stream.beginFrame false).value := by
  have settled := stream.settle_gathers stream.leftover
    (!(stream.leftover.take stream.layer.frameSize).isEmpty)
  change Gathers stream stream.leftover _ (stream.beginFrame false).value at settled
  generalize (stream.beginFrame false).value = state at settled ⊢
  cases settled with
  | short short =>
    rw [List.take_of_length_le (Nat.le_of_lt short)]
    exact .short short
  | whole enough => exact .whole enough

theorem received_gathers (empty : stream.leftover = [])
    (room : filled.length < stream.layer.frameSize) (payload : Bytes) :
    ∃ origin : OutputStream, Alike origin stream ∧
      Gathers origin (filled ++ stream.configuration.dataOf (!started) payload) true
        (stream.received (.assembling filled started) (.ok payload)).value := by
  cases looked : stream.configuration.syncEnabled && !started with
  | false =>
    refine ⟨stream, ⟨rfl, rfl, rfl⟩, ?_⟩
    simp only [received, receivePayload, OutputConfiguration.dataOf, looked, Bool.false_and]
    exact stream.place_gathers empty room payload payload.length
  | true =>
    cases decoded : SyncMarker.decode? payload stream.configuration.markerSize with
    | none =>
      refine ⟨stream, ⟨rfl, rfl, rfl⟩, ?_⟩
      simp only [received, receivePayload, OutputConfiguration.dataOf, looked, decoded]
      exact stream.place_gathers empty room payload payload.length
    | some marker =>
      refine ⟨_, observe_alike marker.index, ?_⟩
      simp only [received, receivePayload, OutputConfiguration.dataOf, looked, decoded]
      exact place_gathers _ ((observe_leftover ..).trans empty)
        ((observe_layer ..).symm ▸ room) _ payload.length

theorem beginRead_gathers (aligned : stream.isHunting = false) (size : Nat) :
    (∃ error, (stream.beginRead size).value = (stream, .finished (.error error))) ∨
      Gathers stream stream.leftover (!stream.leftover.isEmpty) (stream.beginRead size).value := by
  by_cases exact : size = stream.layer.frameSize
  · cases ready : stream.lifecycle.ensureActive with
    | error error => exact .inl ⟨error, by simp [beginRead, exact, ready, fail]⟩
    | ok _ =>
      have started := stream.beginFrame_gathers
      exact .inr (by simpa [beginRead, exact, ready, aligned] using started)
  · exact .inl ⟨_, by simp only [beginRead, if_pos exact]; rfl⟩

/-- A read looks at a receive while its stream is not active. -/
inductive Interrupts (stream : OutputStream) : Task → Incident → Prop where
  | intro : stream.lifecycle.state ≠ .active →
      Interrupts stream (.reading point) (.receive receipt)

theorem Interrupts.refuses (interrupts : Interrupts stream task incident)
    (responds : Responds stream task incident next) : ∃ error, next = .refuse stream error := by
  cases interrupts with
  | intro stopped =>
    cases responds with
    | receive =>
      simp only [answer, Lifecycle.ensureActive_eq_error stopped, received_interruption]
      exact ⟨_, rfl⟩

/-- What a step can come to when nothing is lost and nothing is to be forgotten. -/
inductive Moves (stream : OutputStream) : Task → Incident → Consequence → Prop where
  | calm : next.taken? = none → next.reply?.bind frame? = none →
      Alike next.stream stream → next.task.IsKeeping →
      next.task.held next.stream = task.held stream →
      next.task.looks next.stream = task.looks stream → Moves stream task incident next
  | starts : Gathers stream stream.leftover (!stream.leftover.isEmpty) state →
      Moves stream .idle (.read size) (.ofRead none state)
  | takes {origin : OutputStream} : Alike origin stream →
      Gathers origin (filled ++ stream.configuration.dataOf (!started) payload) true state →
      Moves stream (.reading (.assembling filled started)) (.receive receipt)
        (.ofRead (some payload) state)
  | interrupted : Interrupts stream (.reading point) incident →
      Moves stream (.reading point) incident (.refuse stream error)

theorem receive_moves (keeps : Keeps stream (.reading point))
    (lossless : (Incident.receive receipt).IsLossless stream) :
    Moves stream (.reading point) (.receive receipt) (.ofRead (stream.answer receipt).toOption
      (stream.received point (stream.answer receipt)).value) := by
  by_cases active : stream.lifecycle.state = .active
  · cases receipt with
    | error error => exact absurd active lossless
    | ok datagram =>
      simp only [answer, (Lifecycle.ensureActive_eq_ok _).mpr active, Except.map]
      cases keeps.steady.suits with
      | hunting => exact absurd keeps.keeping id
      | assembling nothing _ room =>
        obtain ⟨origin, alike, gathers⟩ :=
          received_gathers nothing room (datagram.take stream.configuration.maximumPayload)
        exact .takes alike gathers
  · have interrupts : Interrupts stream (.reading point) (.receive receipt) := .intro active
    obtain ⟨error, refused⟩ := interrupts.refuses .receive
    rw [refused]
    exact .interrupted interrupts

theorem Responds.moves (responds : Responds stream task incident next)
    (keeps : Keeps stream task) (lossless : incident.IsLossless stream) :
    Moves stream task incident next := by
  cases responds with
  | signal task =>
    cases task <;> exact .calm rfl rfl ⟨rfl, rfl, rfl⟩ keeps.keeping rfl rfl
  | setTimeout => exact .calm rfl rfl ⟨rfl, rfl, rfl⟩ trivial rfl rfl
  | @read size =>
    rcases beginRead_gathers keeps.aligned size with ⟨error, refused⟩ | gathers
    · rw [refused]
      exact .calm rfl rfl ⟨rfl, rfl, rfl⟩ trivial rfl rfl
    · exact .starts gathers
  | receive => exact receive_moves keeps lossless
  | unaligned | align => exact absurd lossless id
  | missed | found => exact absurd keeps.keeping id
  | unready | expire | overtaken => exact .calm rfl rfl ⟨rfl, rfl, rfl⟩ trivial rfl rfl
  | @activate _ resume =>
    cases resume with
    | false => exact absurd lossless id
    | true => exact .calm rfl rfl ⟨rfl, rfl, rfl⟩ trivial rfl rfl
  | @activated resume _ _ activation =>
    cases resume with
    | false => exact absurd keeps.keeping id
    | true =>
      obtain ⟨lifecycle, value⟩ := completeActivation_value activation
      rw [value]
      exact .calm rfl rfl ⟨rfl, rfl, rfl⟩ trivial rfl rfl

theorem Gathers.unchanged {origin : OutputStream} (gathers : Gathers origin bytes started state)
    (taken? : Option Bytes) :
    let next := Consequence.ofRead taken? state
    next.taken? = taken? ∧ Alike next.stream origin ∧ next.task.IsKeeping := by
  cases gathers <;> exact ⟨rfl, ⟨rfl, rfl, rfl⟩, trivial⟩

theorem Responds.keeps (responds : Responds stream task incident next) (keeps : Keeps stream task)
    (lossless : incident.IsLossless stream) :
    Keeps next.stream next.task ∧ Alike next.stream stream := by
  suffices kept : Alike next.stream stream ∧ next.task.IsKeeping from
    ⟨⟨keeps.steady.respond responds, kept.1.isHunting.trans keeps.aligned, kept.2⟩, kept.1⟩
  cases responds.moves keeps lossless with
  | calm _ _ alike keeping => exact ⟨alike, keeping⟩
  | starts gathers => exact (gathers.unchanged none).2
  | takes alike gathers =>
    obtain ⟨-, same, keeping⟩ := gathers.unchanged _
    exact ⟨same.trans alike, keeping⟩
  | interrupted => exact ⟨⟨rfl, rfl, rfl⟩, trivial⟩

/-- Something holds of every incident in a course of incidents, given what was taken before it. -/
def Throughout (holds : List Bytes → OutputStream → Task → Incident → Prop)
    (stream : OutputStream) (task : Task) (incidents : List Incident) : Prop :=
  ∀ before incident after taken replies middle between, incidents = before ++ incident :: after →
    Runs stream task before taken replies middle between → holds taken middle between incident

theorem Throughout.head {holds : List Bytes → OutputStream → Task → Incident → Prop}
    (all : Throughout holds stream task (incident :: incidents)) :
    holds [] stream task incident :=
  all [] incident incidents [] [] stream task rfl .done

theorem Throughout.tail {holds : List Bytes → OutputStream → Task → Incident → Prop}
    (all : Throughout holds stream task (incident :: incidents))
    (responds : Responds stream task incident next) :
    Throughout (fun taken => holds (next.taken?.toList ++ taken)) next.stream next.task
      incidents := by
  intro before later after taken replies middle between split run
  exact all (incident :: before) later after _ _ middle between
    (congrArg (incident :: ·) split) (.step responds run)

theorem Responds.unique (left : Responds stream task incident next)
    (right : Responds stream task incident next') : next = next' := by
  cases left <;> cases right <;> simp_all

theorem throughout_nil {holds : List Bytes → OutputStream → Task → Incident → Prop} :
    Throughout holds stream task [] := by
  intro before incident after _ _ _ _ split
  cases before <;> cases split

theorem throughout_cons {holds : List Bytes → OutputStream → Task → Incident → Prop}
    (responds : Responds stream task incident next) (first : holds [] stream task incident)
    (rest : Throughout (fun taken => holds (next.taken?.toList ++ taken)) next.stream next.task
      incidents) : Throughout holds stream task (incident :: incidents) := by
  intro before later after taken replies middle between split run
  cases run with
  | done =>
    obtain ⟨rfl, -⟩ := List.cons.inj split
    exact first
  | step other run =>
    injection split with same split
    subst same
    obtain rfl := responds.unique other
    exact rest _ later after _ _ middle between split run

/-- Nothing is lost and nothing is to be forgotten in the course of these incidents. -/
def Lossless : OutputStream → Task → List Incident → Prop :=
  Throughout fun _ stream _ incident => incident.IsLossless stream

/-- Incidents that never lose anything are lossless wherever they happen. -/
theorem lossless_of_forall
    (always : ∀ incident ∈ incidents, ∀ stream, incident.IsLossless stream) :
    Lossless stream task incidents := by
  intro before incident after _ _ middle _ split _
  exact always incident (split ▸ List.mem_append_right _ List.mem_cons_self) middle

theorem Runs.keeps (run : Runs stream task incidents taken replies last final)
    (keeps : Keeps stream task) (lossless : Lossless stream task incidents) :
    Keeps last final ∧ Alike last stream := by
  induction run with
  | done => exact ⟨keeps, rfl, rfl, rfl⟩
  | step responds _ ih =>
    obtain ⟨keeps, alike⟩ := responds.keeps keeps lossless.head
    obtain ⟨keeps, same⟩ := ih keeps (lossless.tail responds)
    exact ⟨keeps, same.trans alike⟩

theorem Gathers.returns {origin : OutputStream} (taken? : Option Bytes)
    (gathers : Gathers origin gathered started state)
    (returned : (Consequence.ofRead taken? state).reply?.toList ++ replies =
      [.ok (.frame bytes)])
    (later : let next := Consequence.ofRead taken? state
      replies = [.ok (.frame bytes)] →
        bytes <+: next.task.held next.stream ++
          origin.configuration.data (next.task.looks next.stream) taken ∧
        bytes.length = origin.layer.frameSize) :
    bytes <+: gathered ++ origin.configuration.data (!started) taken ∧
      bytes.length = origin.layer.frameSize := by
  cases gathers with
  | short => exact later returned
  | whole enough =>
    obtain ⟨frame, -⟩ := List.cons.inj returned
    cases frame
    exact ⟨(List.take_prefix ..).trans (List.prefix_append ..), List.length_take_of_le enough⟩

/-- A run whose only reply is a frame returns the first bytes of the data. -/
theorem Runs.returns (run : Runs stream task incidents taken replies last final)
    (only : replies = [.ok (.frame bytes)]) (keeps : Keeps stream task)
    (lossless : Lossless stream task incidents) :
    bytes <+: task.held stream ++ stream.configuration.data (task.looks stream) taken ∧
      bytes.length = stream.layer.frameSize := by
  induction run with
  | done => cases only
  | @step stream task incident next incidents taken replies last final responds _ ih =>
    obtain ⟨kept, alike⟩ := responds.keeps keeps lossless.head
    rw [alike.layer, alike.configuration] at ih
    have later := fun only => ih only kept (lossless.tail responds)
    cases responds.moves keeps lossless.head with
    | calm silent quiet _ _ held looks =>
      rw [silent, ← held, ← looks]
      cases replied : next.reply? with
      | none =>
        rw [replied] at only
        exact later only
      | some reply =>
        rw [replied] at only quiet
        obtain ⟨rfl, -⟩ := List.cons.inj only
        cases quiet
    | starts gathers =>
      have returned := gathers.returns none only later
      rw [Bool.not_not] at returned
      rw [(gathers.unchanged none).1]
      exact returned
    | takes same gathers =>
      rw [← same.layer, ← same.configuration] at later ⊢
      rw [← same.configuration] at gathers
      have returned := gathers.returns _ only later
      rw [Bool.not_true, OutputConfiguration.data_unlooked, List.append_assoc] at returned
      rw [(gathers.unchanged _).1]
      exact returned
    | interrupted => cases only

end OutputStream

end FrameStream
