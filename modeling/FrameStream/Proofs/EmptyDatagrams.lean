import FrameStream.Proofs.Alignment
import FrameStream.Proofs.Variation

/-!
Empty datagrams among those received. They carry no data, but a payload that a read takes for data
starts its frame, even an empty one: right before the marker that opens a frame an empty datagram
turns that marker into data. Anywhere else, reads come to the same with empty datagrams put in.
-/

namespace FrameStream

namespace OutputStream

/-- The same datagrams with empty ones put in. -/
inductive Interspersed : List Bytes → List Bytes → Prop where
  | done : Interspersed [] []
  | keep : Interspersed plain padded → Interspersed (datagram :: plain) (datagram :: padded)
  | empty : Interspersed plain padded → Interspersed plain ([] :: padded)

/-- What the owner of a stream sees after a read has succeeded. -/
structure Sight where
  frame : Bytes
  gaps : Nat
  lastIndex : UInt32
  leftover : Nat
  isHunting : Bool
  deriving DecidableEq, Repr

/-- Two reads with the same result, over datagrams without and with empty ones. The streams that
they leave differ at most in how many payloads they have discarded. -/
structure Resembles (read other : Advance Bytes) : Prop where
  result : other.result? = read.result?
  stream : ∃ more, other.stream = read.stream.passing more
  remaining : ∃ plain padded, read.remaining = plain.map .ok ∧ other.remaining = padded.map .ok ∧
    Interspersed plain padded

def sight (stream : OutputStream) (frame : Bytes) : Sight where
  frame
  gaps := stream.statistics.gaps
  lastIndex := stream.lastIndex
  leftover := stream.leftover.length
  isHunting := stream.isHunting

/-- What is seen after each of so many reads, as far as they succeed. -/
def sights : Nat → OutputStream → List Receipt → List Sight
  | 0, _, _ => []
  | count + 1, stream, receipts =>
    let read := stream.readOver receipts
    match read.result? with
    | some (.ok frame) => read.stream.sight frame :: sights count read.stream read.remaining
    | _ => []

/-- A read starts its frame with a marker, and an empty datagram is put right before it. -/
inductive Displaces (stream : OutputStream) : List Bytes → List Bytes → Prop where
  | displaced : 0 < stream.layer.frameSize → stream.isHunting = false → stream.leftover = [] →
      SyncMarker.decode? opening stream.configuration.markerSize = some marker →
      Interspersed (opening :: plain) padded → Displaces stream (opening :: plain) ([] :: padded)

/-- One of the reads starts like this, and there are enough bytes for its frame. -/
inductive Misplaces : OutputStream → List Bytes → List Bytes → Prop where
  | here : stream.Displaces plain padded →
      stream.layer.frameSize ≤ (stream.cut plain).flatten.length → Misplaces stream plain padded
  | later : (stream.readOver (plain.map .ok)).result? = some (.ok frame) →
      (stream.readOver (plain.map .ok)).remaining = plain'.map .ok →
      (stream.readOver (padded.map .ok)).remaining = padded'.map .ok →
      Misplaces (stream.readOver (plain.map .ok)).stream plain' padded' →
      Misplaces stream plain padded

variable {stream : OutputStream} {plain padded : List Bytes} {read other : Advance Bytes}

theorem passing_eq_varied (count : Nat) :
    (passing · count) = varied id { discardedPayloads := count } := by
  funext stream
  simp [passing, varied, OutputStatistics.plus, Nat.add_comm]

theorem received_discarding (count : Nat) (stream : OutputStream) (point : ReadPoint)
    (receipt : Receipt) :
    ((stream.passing count).received point receipt).value =
      (stream.received point receipt).value.map (passing · count) id := by
  have step := stream.received_varied id { discardedPayloads := count } point receipt
  rwa [← passing_eq_varied] at step

/-- What was discarded before makes no difference to a read. -/
theorem readOn_discarding (count : Nat) (state : ReadState) (receipts : List Receipt) :
    readOn (state.map (passing · count) id) receipts =
      { readOn state receipts with stream := (readOn state receipts).stream.passing count } := by
  induction receipts generalizing state with
  | nil =>
    match state with
    | (stream, .finished result) => rfl
    | (stream, .waiting point) => rfl
  | cons receipt receipts ih =>
    match state with
    | (stream, .finished result) => rfl
    | (stream, .waiting point) =>
      have answered : (stream.passing count).answer receipt = stream.answer receipt := rfl
      change readOn (stream.passing count, .waiting point) (receipt :: receipts) = _
      rw [readOn, readOn, answered, received_discarding, ih]
      rfl

theorem readOver_discarding (count : Nat) (stream : OutputStream) (receipts : List Receipt) :
    (stream.passing count).readOver receipts =
      { stream.readOver receipts with stream := (stream.readOver receipts).stream.passing count }
    := by
  have begun := stream.beginRead_varied id { discardedPayloads := count } stream.layer.frameSize
  rw [← passing_eq_varied] at begun
  exact (congrArg (readOn · receipts) begun).trans (readOn_discarding count _ receipts)

theorem sights_discarding (count discarded : Nat) (stream : OutputStream)
    (receipts : List Receipt) :
    sights count (stream.passing discarded) receipts = sights count stream receipts := by
  induction count generalizing stream receipts with
  | zero => rfl
  | succ count ih =>
    simp only [sights, readOver_discarding, ih]
    rfl

theorem readOn_keeps (state : ReadState) (receipts : List Receipt) :
    (readOn state receipts).stream.lifecycle = state.1.lifecycle ∧
      (readOn state receipts).stream.configuration = state.1.configuration := by
  induction receipts generalizing state with
  | nil =>
    match state with
    | (stream, .finished result) => exact ⟨rfl, rfl⟩
    | (stream, .waiting point) => exact ⟨rfl, rfl⟩
  | cons receipt receipts ih =>
    match state with
    | (stream, .finished result) => exact ⟨rfl, rfl⟩
    | (stream, .waiting point) =>
      have ⟨_, _, _, _, changed⟩ := stream.received_changes point (stream.answer receipt)
      have later := ih (stream.received point (stream.answer receipt)).value
      rw [changed] at later
      rw [readOn]
      exact later

theorem readOver_keeps (stream : OutputStream) (receipts : List Receipt) :
    (stream.readOver receipts).stream.lifecycle = stream.lifecycle ∧
      (stream.readOver receipts).stream.configuration = stream.configuration := by
  have kept := readOn_keeps (stream.beginRead stream.layer.frameSize).value receipts
  rcases stream.beginRead_cases stream.layer.frameSize with
    ⟨error, refused⟩ | ⟨_, _, ⟨_, _, hunts⟩ | ⟨_, assembles⟩⟩
  · rw [refused] at kept
    rwa [readOver, refused]
  · rw [hunts] at kept
    rwa [readOver, hunts]
  · rw [readOver]
    generalize (stream.beginRead stream.layer.frameSize).value = state at kept assembles
    cases assembles with
    | short => exact kept
    | whole => exact kept

theorem decode?_nil (size : Nat) : SyncMarker.decode? [] size = none := by
  unfold SyncMarker.decode?
  split <;> rfl

/-- Empty datagrams add no bytes. -/
theorem flatten_cut_of_interspersed (interspersed : Interspersed plain padded)
    (stream : OutputStream) : (stream.cut padded).flatten = (stream.cut plain).flatten := by
  induction interspersed with
  | done => rfl
  | keep _ ih => exact congrArg (_ ++ ·) ih
  | empty _ ih => simpa [cut] using ih

theorem Resembles.finished (interspersed : Interspersed plain padded) (stream : OutputStream)
    (result : Except StreamError Bytes) :
    Resembles (readOn (stream, .finished result) (plain.map .ok))
      (readOn (stream, .finished result) (padded.map .ok)) := by
  rw [readOn_finished, readOn_finished]
  exact ⟨rfl, ⟨0, rfl⟩, plain, padded, rfl, rfl, interspersed⟩

theorem Resembles.waiting (stream : OutputStream) (more : Nat) (point : ReadPoint) :
    Resembles (readOn (stream, .waiting point) []) (readOn (stream.passing more, .waiting point) [])
    := by
  rw [readOn_waiting, readOn_waiting]
  exact ⟨rfl, ⟨more, rfl⟩, [], [], rfl, rfl, .done⟩

theorem Resembles.after (resembles : Resembles read other) (taken others : List Bytes) :
    Resembles (read.after taken) (other.after others) :=
  ⟨resembles.result, resembles.stream, resembles.remaining⟩

theorem Resembles.discarding (resembles : Resembles read other) (count : Nat) :
    Resembles read { other with stream := other.stream.passing count } := by
  obtain ⟨result, ⟨more, stream⟩, remaining⟩ := resembles
  refine ⟨result, ⟨more + count, ?_⟩, remaining⟩
  rw [stream, passing_passing]

/-- A read that has started takes an empty datagram for data, and is where it was. -/
theorem received_nothing (room : held.length < stream.layer.frameSize) :
    ((stream.leaving []).received (.assembling held true) (.ok [])).value =
      (stream.leaving [], .waiting (.assembling held true)) := by
  have gathers := received_continuation room []
  rw [List.append_nil] at gathers
  generalize ((stream.leaving []).received _ _).value = state at gathers
  cases gathers with
  | short => rfl
  | whole whole => omega

/-- Empty datagrams make no difference to a read that has started. -/
theorem resembles_started (active : stream.lifecycle.state = .active)
    (gathers : Gathers stream held true state) (interspersed : Interspersed plain padded) :
    Resembles (readOn state (plain.map .ok)) (readOn state (padded.map .ok)) := by
  have resting : (stream.leaving []).lifecycle.state = .active := active
  -- Where an empty datagram was put in only the other read moves, and it comes back to its place.
  induction interspersed generalizing held state with
  | done =>
    cases gathers with
    | short => exact .waiting _ 0 _
    | whole => exact .finished .done _ _
  | keep rest ih =>
    cases gathers with
    | short short =>
      rw [List.map_cons, List.map_cons, readOn_ok resting, readOn_ok resting]
      exact (ih (received_continuation short _)).after _ _
    | whole => exact .finished (.keep rest) _ _
  | empty rest ih =>
    cases gathers with
    | short short =>
      rw [List.map_cons, readOn_ok resting, List.take_nil, received_nothing short]
      exact (ih (.short short)).after [] _
    | whole => exact .finished (.empty rest) _ _

/-- An empty datagram right at the start of a frame only starts it. -/
theorem received_nothing_first (empty : stream.leftover = [])
    (positive : 0 < stream.layer.frameSize) :
    (stream.received (.assembling [] false) (.ok [])).value =
      (stream, .waiting (.assembling [] true)) := by
  have room : ([] : Bytes).length < stream.layer.frameSize := positive
  have started := received_nothing room
  rw [leaving_of_empty empty] at started
  rw [received_unmarked (decode?_nil _), started]

theorem gathers_nothing (empty : stream.leftover = []) (positive : 0 < stream.layer.frameSize) :
    Gathers stream [] true (stream, .waiting (.assembling [] true)) := by
  have short : Gathers stream [] true (stream.leaving [], .waiting (.assembling [] true)) :=
    .short positive
  rwa [leaving_of_empty empty] at short

theorem resembles_first (active : stream.lifecycle.state = .active)
    (enabled : stream.configuration.syncEnabled = true) (aligned : stream.isHunting = false)
    (empty : stream.leftover = []) (positive : 0 < stream.layer.frameSize)
    (interspersed : Interspersed plain padded) (placed : ¬ stream.Displaces plain padded) :
    Resembles (readOn (stream, .waiting (.assembling [] false)) (plain.map .ok))
      (readOn (stream, .waiting (.assembling [] false)) (padded.map .ok)) := by
  have room : ([] : Bytes).length < stream.layer.frameSize := positive
  cases interspersed with
  | done => exact .waiting stream 0 _
  | @keep _ _ datagram rest =>
    rw [List.map_cons, List.map_cons, readOn_ok active, readOn_ok active]
    apply Resembles.after
    cases decoded : SyncMarker.decode?
        (datagram.take stream.configuration.maximumPayload) stream.configuration.markerSize with
    | none =>
      have gathers := received_continuation room
        (datagram.take stream.configuration.maximumPayload)
      rw [leaving_of_empty empty, ← received_unmarked decoded] at gathers
      exact resembles_started active gathers rest
    | some marker =>
      have gathers := received_start enabled empty room decoded
      exact resembles_started (observe_active active marker.index) gathers rest
  | empty rest =>
    have unmarked : ¬ ∃ next later, plain.map Except.ok = (.ok next :: later : List Receipt) ∧
        (SyncMarker.decode? next stream.configuration.markerSize).isSome := by
      rintro ⟨next, later, same, marks⟩
      obtain ⟨marker, decoded⟩ := Option.isSome_iff_exists.mp marks
      cases plain with
      | nil => cases same
      | cons opening plain =>
        cases same
        exact placed (.displaced positive aligned empty decoded rest)
    have begun := (readOn_start_eq_iff active enabled empty positive _).mpr unmarked
    rw [← begun, List.map_cons, readOn_ok active, List.take_nil,
      received_nothing_first empty positive]
    exact (resembles_started active (gathers_nothing empty positive) rest).after [] _

/-- Empty datagrams make no difference to a hunt, but that they are discarded, too. -/
theorem resembles_hunting (active : stream.lifecycle.state = .active)
    (empty : stream.leftover = []) (interspersed : Interspersed plain padded) (more : Nat) :
    Resembles (readOn (stream, .waiting .hunting) (plain.map .ok))
      (readOn (stream.passing more, .waiting .hunting) (padded.map .ok)) := by
  induction interspersed generalizing stream more with
  | done => exact .waiting stream more _
  | @keep _ _ datagram rest ih =>
    have passing : (stream.passing more).lifecycle.state = .active := active
    rw [List.map_cons, List.map_cons, readOn_ok active, readOn_ok passing, received_discarding,
      passing_configuration]
    apply Resembles.after
    cases decoded : SyncMarker.decode?
        (datagram.take stream.configuration.maximumPayload) stream.configuration.markerSize with
    | none =>
      have passed : (stream.passing 1).lifecycle.state = .active := active
      rw [received_passing decoded]
      exact ih passed empty more
    | some marker =>
      rw [readOn_discarding, received_adopting empty decoded]
      apply Resembles.discarding
      refine resembles_started ?_ (gathers_adopted _) rest
      exact active
  | empty rest ih =>
    have passing : (stream.passing more).lifecycle.state = .active := active
    rw [List.map_cons, readOn_ok passing, List.take_nil, received_passing (decode?_nil _),
      passing_passing]
    exact (ih active empty (more + 1)).after [] _

/-- Empty datagrams make no difference to a read, if they do not displace its marker. -/
theorem resembles_of_placed (active : stream.lifecycle.state = .active)
    (enabled : stream.configuration.syncEnabled = true)
    (interspersed : Interspersed plain padded) (placed : ¬ stream.Displaces plain padded) :
    Resembles (stream.readOver (plain.map .ok)) (stream.readOver (padded.map .ok)) := by
  cases hunting : stream.isHunting with
  | true =>
    rw [readOver_hunting active hunting enabled, readOver_hunting active hunting enabled]
    have resting : (stream.leaving []).lifecycle.state = .active := active
    exact resembles_hunting resting rfl interspersed 0
  | false =>
    rw [readOver_aligned active hunting, readOver_aligned active hunting]
    by_cases first : 0 < stream.layer.frameSize ∧ stream.leftover = []
    · obtain ⟨positive, empty⟩ := first
      rw [beginFrame_empty empty positive]
      exact resembles_first active enabled hunting empty positive interspersed placed
    · rw [← beginFrame_of_held fun positive empty => first ⟨positive, empty⟩]
      exact resembles_started active stream.gathers_adopted interspersed

theorem readOn_waits {datagrams : List Bytes} (active : stream.lifecycle.state = .active)
    (gathers : Gathers stream held true state)
    (short : (held ++ (stream.cut datagrams).flatten).length < stream.layer.frameSize) :
    (readOn state (datagrams.map .ok)).result? = none := by
  induction datagrams generalizing held state with
  | nil =>
    cases gathers with
    | short => rfl
    | whole whole =>
      rw [List.length_append] at short
      omega
  | cons datagram datagrams ih =>
    cases gathers with
    | short room =>
      have resting : (stream.leaving []).lifecycle.state = .active := active
      rw [List.map_cons, readOn_ok resting, Advance.after_result?]
      apply ih (received_continuation room _)
      rwa [List.append_assoc]
    | whole whole =>
      rw [List.length_append] at short
      omega

theorem readOver_first (active : stream.lifecycle.state = .active)
    (aligned : stream.isHunting = false) (empty : stream.leftover = [])
    (positive : 0 < stream.layer.frameSize) (datagram : Bytes) (receipts : List Receipt) :
    stream.readOver (.ok datagram :: receipts) =
      (readOn (stream.received (.assembling [] false)
        (.ok (datagram.take stream.configuration.maximumPayload))).value receipts).after
          [datagram.take stream.configuration.maximumPayload] := by
  rw [readOver_aligned active aligned, beginFrame_empty empty positive, readOn_ok active]

theorem readOver_nothing_first (active : stream.lifecycle.state = .active)
    (aligned : stream.isHunting = false) (empty : stream.leftover = [])
    (positive : 0 < stream.layer.frameSize) (receipts : List Receipt) :
    stream.readOver (.ok [] :: receipts) =
      (readOn (stream, .waiting (.assembling [] true)) receipts).after [[]] := by
  rw [readOver_first active aligned empty positive, List.take_nil,
    received_nothing_first empty positive]

theorem gathers_marker (enabled : stream.configuration.syncEnabled = true)
    (empty : stream.leftover = []) (positive : 0 < stream.layer.frameSize)
    (decoded : SyncMarker.decode? opening stream.configuration.markerSize = some marker) :
    Gathers (stream.observe marker.index).value
      ((opening.take stream.configuration.maximumPayload).drop stream.configuration.markerSize) true
      (stream.received (.assembling [] false)
        (.ok (opening.take stream.configuration.maximumPayload))).value := by
  have room : ([] : Bytes).length < stream.layer.frameSize := positive
  exact received_start enabled empty room ((decode?_cut enabled opening).trans decoded)

namespace Displaces

variable (displaces : stream.Displaces plain padded)
include displaces

theorem observes (active : stream.lifecycle.state = .active)
    (enabled : stream.configuration.syncEnabled = true) :
    (stream.readOver (plain.map .ok)).stream.lastIndex ≠ stream.lastIndex ∨
      (stream.readOver (plain.map .ok)).stream.statistics.gaps ≠ stream.statistics.gaps := by
  cases displaces with
  | @displaced _ marker rest _ positive aligned empty decoded _ =>
    have gathers := gathers_marker enabled empty positive decoded
    have ⟨indexed, counted⟩ := readOn_indices (observe_active active marker.index) gathers
      (rest.map .ok)
    rw [List.map_cons, readOver_first active aligned empty positive, Advance.after_stream,
      indexed, counted]
    exact stream.observe_changes marker.index

theorem overlooks (active : stream.lifecycle.state = .active) :
    (stream.readOver (padded.map .ok)).stream.lastIndex = stream.lastIndex ∧
      (stream.readOver (padded.map .ok)).stream.statistics.gaps = stream.statistics.gaps := by
  cases displaces with
  | displaced positive aligned empty =>
    rw [List.map_cons, readOver_nothing_first active aligned empty positive, Advance.after_stream]
    exact readOn_indices active (gathers_nothing empty positive) _

theorem completes (active : stream.lifecycle.state = .active)
    (enough : stream.layer.frameSize ≤ (stream.cut plain).flatten.length) :
    ∃ frame, (stream.readOver (padded.map .ok)).result? = some (.ok frame) := by
  cases displaces with
  | displaced positive aligned empty _ interspersed =>
    rw [← flatten_cut_of_interspersed interspersed] at enough
    obtain ⟨count, _, read⟩ := readOn_completes active (gathers_nothing empty positive) enough []
    rw [List.append_nil] at read
    rw [List.map_cons, readOver_nothing_first active aligned empty positive, read]
    exact ⟨_, rfl⟩

theorem waits (active : stream.lifecycle.state = .active)
    (enabled : stream.configuration.syncEnabled = true)
    (short : (stream.cut plain).flatten.length < stream.layer.frameSize) :
    (stream.readOver (plain.map .ok)).result? = none ∧
      (stream.readOver (padded.map .ok)).result? = none := by
  cases displaces with
  | @displaced opening marker rest _ positive aligned empty decoded interspersed =>
    constructor
    · have gathers := gathers_marker enabled empty positive decoded
      rw [List.map_cons, readOver_first active aligned empty positive, Advance.after_result?]
      apply readOn_waits (observe_active active marker.index) gathers
      rw [cut, List.map_cons, List.flatten_cons, List.length_append] at short
      rw [observe_layer, List.length_append, List.length_drop, cut, observe_configuration]
      omega
    · rw [← flatten_cut_of_interspersed interspersed] at short
      rw [List.map_cons, readOver_nothing_first active aligned empty positive,
        Advance.after_result?]
      exact readOn_waits active (gathers_nothing empty positive) short

end Displaces

theorem datagrams_inj (same : plain.map Except.ok = (padded.map Except.ok : List Receipt)) :
    plain = padded :=
  (List.map_inj_right fun _ _ => Except.ok.inj).mp same

theorem sights_of_ok (ok : (stream.readOver receipts).result? = some (.ok frame)) (count : Nat) :
    sights (count + 1) stream receipts =
      (stream.readOver receipts).stream.sight frame ::
        sights count (stream.readOver receipts).stream (stream.readOver receipts).remaining := by
  simp only [sights, ok]

theorem sights_of_none (none : (stream.readOver receipts).result? = none) (count : Nat) :
    sights count stream receipts = [] := by
  cases count with
  | zero => rfl
  | succ count => simp only [sights, none]

theorem Displaces.sights_ne (displaces : stream.Displaces plain padded)
    (active : stream.lifecycle.state = .active)
    (enabled : stream.configuration.syncEnabled = true)
    (enough : stream.layer.frameSize ≤ (stream.cut plain).flatten.length) :
    sights 1 stream (plain.map .ok) ≠ sights 1 stream (padded.map .ok) := by
  have ⟨index, gaps⟩ := displaces.overlooks active
  have observes := displaces.observes active enabled
  obtain ⟨frame, returned⟩ := displaces.completes active enough
  rw [sights_of_ok returned]
  intro same
  cases result : (stream.readOver (plain.map .ok)).result? with
  | none =>
    rw [sights_of_none result] at same
    cases same
  | some outcome =>
    cases outcome with
    | error error =>
      simp only [sights, result] at same
      cases same
    | ok other =>
      rw [sights_of_ok result] at same
      have seen := (List.cons.inj same).1
      have indices := congrArg Sight.lastIndex seen
      have counts := congrArg Sight.gaps seen
      rcases observes with indexed | counted
      · exact indexed (indices.trans index)
      · exact counted (counts.trans gaps)

/-- If two reads are alike, what is seen after them decides. -/
theorem sights_succ_iff
    (resembles : Resembles (stream.readOver (plain.map .ok)) (stream.readOver (padded.map .ok)))
    (ok : (stream.readOver (plain.map .ok)).result? = some (.ok frame)) :
    ∃ plain' padded', (stream.readOver (plain.map .ok)).remaining = plain'.map .ok ∧
      (stream.readOver (padded.map .ok)).remaining = padded'.map .ok ∧
      Interspersed plain' padded' ∧
      ∀ count, sights (count + 1) stream (plain.map .ok) =
          sights (count + 1) stream (padded.map .ok) ↔
        sights count (stream.readOver (plain.map .ok)).stream (plain'.map .ok) =
          sights count (stream.readOver (plain.map .ok)).stream (padded'.map .ok) := by
  obtain ⟨result, ⟨more, after⟩, plain', padded', rest, others, interspersed⟩ := resembles
  refine ⟨plain', padded', rest, others, interspersed, ?_⟩
  intro count
  rw [sights_of_ok ok, sights_of_ok (result.trans ok), after, rest, others, sights_discarding]
  exact List.cons_inj_right _

/-- A frame that misses its marker shows, after however many reads. -/
theorem Misplaces.sights_ne (misplaces : Misplaces stream plain padded)
    (active : stream.lifecycle.state = .active)
    (enabled : stream.configuration.syncEnabled = true)
    (interspersed : Interspersed plain padded) :
    ∃ count, sights count stream (plain.map .ok) ≠ sights count stream (padded.map .ok) := by
  induction misplaces with
  | here displaces enough => exact ⟨1, displaces.sights_ne active enabled enough⟩
  | @later plain' padded' stream plain padded _ ok rest others _ ih =>
    by_cases displaces : stream.Displaces plain padded
    · rcases Nat.lt_or_ge (stream.cut plain).flatten.length stream.layer.frameSize with
        short | enough
      · rw [(displaces.waits active enabled short).1] at ok
        cases ok
      · exact ⟨1, displaces.sights_ne active enabled enough⟩
    · have resembles := resembles_of_placed active enabled interspersed displaces
      obtain ⟨first, second, left, right, following, seen⟩ := sights_succ_iff resembles ok
      obtain rfl : first = plain' := datagrams_inj (left.symm.trans rest)
      obtain rfl : second = padded' := datagrams_inj (right.symm.trans others)
      have ⟨lives, made⟩ := stream.readOver_keeps (plain.map .ok)
      obtain ⟨count, differ⟩ := ih (by rwa [lives]) (by rwa [made]) following
      exact ⟨count + 1, fun same => differ ((seen count).mp same)⟩

/-- As long as no frame misses its marker, all reads are alike. -/
theorem sights_eq_of_placed (active : stream.lifecycle.state = .active)
    (enabled : stream.configuration.syncEnabled = true)
    (interspersed : Interspersed plain padded) (placed : ¬ Misplaces stream plain padded)
    (count : Nat) :
    sights count stream (plain.map .ok) = sights count stream (padded.map .ok) := by
  induction count generalizing stream plain padded with
  | zero => rfl
  | succ count ih =>
    by_cases displaces : stream.Displaces plain padded
    · have short : (stream.cut plain).flatten.length < stream.layer.frameSize :=
        Nat.lt_of_not_le fun enough => placed (.here displaces enough)
      have ⟨waits, others⟩ := displaces.waits active enabled short
      rw [sights_of_none waits, sights_of_none others]
    · have resembles := resembles_of_placed active enabled interspersed displaces
      match result : (stream.readOver (plain.map .ok)).result? with
      | none => rw [sights_of_none result, sights_of_none (resembles.result.trans result)]
      | some (.error error) => simp only [sights, resembles.result, result]
      | some (.ok frame) =>
        obtain ⟨first, second, left, right, following, seen⟩ := sights_succ_iff resembles result
        have ⟨lives, made⟩ := stream.readOver_keeps (plain.map .ok)
        apply (seen count).mpr
        apply ih
        · rwa [lives]
        · rwa [made]
        · exact following
        · exact fun misplaces => placed (.later result left right misplaces)

/-- Empty datagrams make no difference to any number of reads exactly if none of them is right
before the marker with which a read starts its frame, unless too little comes to complete that
frame. -/
theorem sights_eq_iff (active : stream.lifecycle.state = .active)
    (enabled : stream.configuration.syncEnabled = true)
    (interspersed : Interspersed plain padded) :
    (∀ count, sights count stream (plain.map .ok) = sights count stream (padded.map .ok)) ↔
      ¬ Misplaces stream plain padded := by
  constructor
  · intro same misplaces
    obtain ⟨count, differ⟩ := misplaces.sights_ne active enabled interspersed
    exact differ (same count)
  · intro placed count
    exact sights_eq_of_placed active enabled interspersed placed count

/-- Empty datagrams before, right behind and after the marker without data that ends a hunt. -/
theorem sights_eq_of_hunting :
    lostStream.lifecycle.state = .active ∧ lostStream.configuration.syncEnabled = true ∧
      Interspersed
        [[9], SyncMarker.encode ⟨1⟩ 8, SyncMarker.encode ⟨7⟩ 8 ++ [1, 2, 3, 4]]
        [[], [9], [], SyncMarker.encode ⟨1⟩ 8, [], [], SyncMarker.encode ⟨7⟩ 8 ++ [1, 2, 3, 4], []] ∧
      (∀ count,
        sights count lostStream
          [.ok [9], .ok (SyncMarker.encode ⟨1⟩ 8), .ok (SyncMarker.encode ⟨7⟩ 8 ++ [1, 2, 3, 4])] =
        sights count lostStream
          [.ok [], .ok [9], .ok [], .ok (SyncMarker.encode ⟨1⟩ 8), .ok [], .ok [],
            .ok (SyncMarker.encode ⟨7⟩ 8 ++ [1, 2, 3, 4]), .ok []]) ∧
      sights 2 lostStream
        [.ok [9], .ok (SyncMarker.encode ⟨1⟩ 8), .ok (SyncMarker.encode ⟨7⟩ 8 ++ [1, 2, 3, 4])] =
        [⟨SyncMarker.encode ⟨7⟩ 8 ++ [1, 2, 3, 4], 0, 1, 0, false⟩] := by
  have interspersed : Interspersed
      [[9], SyncMarker.encode ⟨1⟩ 8, SyncMarker.encode ⟨7⟩ 8 ++ [1, 2, 3, 4]]
      [[], [9], [], SyncMarker.encode ⟨1⟩ 8, [], [], SyncMarker.encode ⟨7⟩ 8 ++ [1, 2, 3, 4], []] :=
    .empty (.keep (.empty (.keep (.empty (.empty (.keep (.empty .done)))))))
  refine ⟨rfl, rfl, interspersed, ?_, rfl⟩
  apply (sights_eq_iff rfl rfl interspersed).mpr
  intro misplaces
  cases misplaces with
  | here displaces =>
    cases displaces with
    | displaced _ aligned => cases aligned
  | @later plain' _ _ _ _ _ _ rest _ misplaces =>
    have nothing : [] = plain' := datagrams_inj rest
    subst nothing
    cases misplaces with
    | here displaces => cases displaces
    | later ok => cases ok

/-- An empty datagram before the first marker makes that marker a part of the frame. -/
theorem empty_datagram_displaces_marker :
    ∃ (stream : OutputStream) (plain padded : List Bytes),
      Reached stream .idle ∧ stream.lifecycle.state = .active ∧
        stream.configuration.syncEnabled = true ∧ Interspersed plain padded ∧
        plain = [SyncMarker.encode ⟨0⟩ 8 ++ [1, 2, 3, 4, 5, 6, 7, 8, 9, 10, 11, 12]] ∧
        padded = [] :: plain ∧
        sights 1 stream (plain.map .ok) =
          [⟨[1, 2, 3, 4, 5, 6, 7, 8, 9, 10, 11, 12], 0, 0, 0, false⟩] ∧
        sights 1 stream (padded.map .ok) =
          [⟨SyncMarker.encode ⟨0⟩ 8 ++ [1, 2, 3, 4], 0, SyncMarker.unobserved, 8, false⟩] := by
  exact ⟨newStream, _, _, newStream_reached, rfl, rfl, .empty (.keep .done), rfl, rfl, rfl, rfl⟩

end OutputStream

end FrameStream
