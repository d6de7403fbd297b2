import FrameStream.Proofs.Attempts
import FrameStream.Proofs.WireImage

/-!
The indices of the markers on the wire when writes may fail. A write of a marked frame uses up an
index when it starts. If it then fails before its first payload was taken, the index is never seen,
and the next marker on the wire has skipped it.
-/

namespace FrameStream

/-- The index of the marker that opens the first datagram of an attempt. -/
def Attempt.markerIndex? (configuration : InputConfiguration) (attempt : Attempt) :
    Option UInt32 :=
  (attempt.datagrams.head?.bind (SyncMarker.decode? · configuration.markerSize)).map
    SyncMarker.index

namespace InputConfiguration

/-- The attempts at frames with a marker, when some frames were completed before. Every attempt at
a frame whose turn it is has one, until the frame is completed. -/
def markedAttempts (configuration : InputConfiguration) : Nat → List Attempt → List Attempt
  | _, [] => []
  | completed, attempt :: attempts =>
    let later :=
      configuration.markedAttempts (completed + if attempt.result.isOk then 1 else 0) attempts
    if attempt.isStarted && configuration.marks completed then attempt :: later else later

/-- The indices of the markers that were put on the wire after an activation. -/
def wireIndices (configuration : InputConfiguration) (attempts : List Attempt) : List UInt32 :=
  (configuration.markedAttempts 0 attempts).filterMap (Attempt.markerIndex? configuration)

variable {configuration : InputConfiguration} {marker : SyncMarker} {frame : Bytes}

theorem header_length_le (enabled : configuration.syncEnabled = true) (marker : SyncMarker) :
    (configuration.header (some marker)).length ≤ configuration.maximumPayload := by
  have fits := configuration.marker_lt enabled
  have length := marker.encode_length (configuration.marker_min enabled)
  rw [header, Option.map_some, Option.getD_some, length]
  exact Nat.le_of_lt fits

theorem decode?_head_payloads (enabled : configuration.syncEnabled = true) (marker : SyncMarker)
    (first : (configuration.payloads (some marker) frame).head? = some payload) :
    SyncMarker.decode? payload configuration.markerSize = some marker := by
  have nonempty : frame ≠ [] := by
    rintro rfl
    simp [payloads] at first
  have length := marker.encode_length (configuration.marker_min enabled)
  rw [payloads_eq_image (header_length_le enabled marker) nonempty] at first
  obtain ⟨opening, found, opens⟩ := configuration.head?_image (some marker) nonempty
  rw [found, Option.some_inj] at first
  subst first
  obtain ⟨more, rfl⟩ := opens
  have fits := Nat.le_of_lt (configuration.marker_lt enabled)
  rw [header, Option.map_some, Option.getD_some, List.take_append,
    List.take_of_length_le (by rwa [length]), List.append_assoc]
  exact marker.decode?_encode _ (configuration.marker_min enabled)

theorem payloads_nonempty {marker? : Option SyncMarker}
    (room : (configuration.header marker?).length ≤ configuration.maximumPayload) :
    ∀ payload ∈ configuration.payloads marker? frame, payload ≠ [] := by
  by_cases empty : frame = []
  · subst empty
    simp [payloads]
  · rw [payloads_eq_image room empty]
    exact configuration.image_nonempty marker? empty

end InputConfiguration

namespace InputStream

/-- A stream that has counted some frames, and used up some indices. -/
structure Tallies (configuration : InputConfiguration) (completed used : Nat)
    (stream : InputStream) : Prop where
  configuration_eq : stream.configuration = configuration
  frameCounter_eq : stream.frameCounter = UInt64.ofNat completed
  syncIndex_eq : stream.syncIndex = UInt32.ofNat used

variable {configuration : InputConfiguration} {stream : InputStream} {completed used : Nat}

namespace Tallies

variable (tallies : Tallies configuration completed used stream)
include tallies

theorem signal (request : Lifecycle.Signal) :
    Tallies configuration completed used (stream.signal request).value :=
  ⟨tallies.configuration_eq, tallies.frameCounter_eq, tallies.syncIndex_eq⟩

theorem resume {batchSize : UInt16}
    (activation : stream.completeActivation batchSize true = .ok activated) :
    Tallies configuration completed used activated.value := by
  obtain ⟨_, _, activation⟩ := ok_of_bind activation
  cases activation
  exact ⟨tallies.configuration_eq, tallies.frameCounter_eq, tallies.syncIndex_eq⟩

theorem nextMarker?_eq :
    stream.nextMarker? =
      if configuration.marks completed then some ⟨UInt32.ofNat used⟩ else none := by
  rw [nextMarker?, tallies.configuration_eq, tallies.frameCounter_eq, tallies.syncIndex_eq]
  rfl

theorem drawn :
    Tallies configuration completed (used + if configuration.marks completed then 1 else 0)
      stream.drawn := by
  rw [InputStream.drawn, tallies.nextMarker?_eq]
  by_cases marked : configuration.marks completed = true
  · have next : SyncMarker.successor stream.syncIndex = UInt32.ofNat (used + 1) := by
      rw [tallies.syncIndex_eq, UInt32.ofNat_add]
      rfl
    simp only [if_pos marked, Option.isSome_some, if_true]
    exact ⟨tallies.configuration_eq, tallies.frameCounter_eq, next⟩
  · simp only [if_neg marked, Option.isSome_none, Bool.false_eq_true, if_false]
    exact tallies

theorem of_leaves (leaves : Leaves stream payloads (next, .finished result)) :
    Tallies configuration (completed + if result.isOk then 1 else 0) used next := by
  cases leaves with
  | written lifecycle =>
    have counted : stream.frameCounter + 1 = UInt64.ofNat (completed + 1) := by
      rw [tallies.frameCounter_eq, UInt64.ofNat_add]
      rfl
    exact ⟨tallies.configuration_eq, counted, tallies.syncIndex_eq⟩
  | failed lifecycle =>
    exact ⟨tallies.configuration_eq, tallies.frameCounter_eq, tallies.syncIndex_eq⟩

/-- A write that is accepted leaves a marker on the wire, if its frame has one and anything of it
is sent. -/
theorem write_accepted (active : stream.lifecycle.state = .active)
    (exact : frame.length = stream.layer.frameSize)
    (run : Writes (stream.beginWrite frame).value exchanges (next, .finished result))
    (whole : ∀ exchange ∈ exchanges, exchange.TakesWhole) :
    Tallies configuration (completed + if result.isOk then 1 else 0)
        (used + if configuration.marks completed then 1 else 0) next ∧
      (configuration.marks completed = true →
        (Attempt.mk frame exchanges result).markerIndex? configuration =
          if (Attempt.mk frame exchanges result).isSilent then none
          else some (UInt32.ofNat used)) := by
  rw [beginWrite_drawn active exact, tallies.configuration_eq, tallies.nextMarker?_eq] at run
  have room : (configuration.header (if configuration.marks completed then
      some ⟨UInt32.ofNat used⟩ else none)).length ≤ configuration.maximumPayload := by
    split
    · rename_i marked
      exact InputConfiguration.header_length_le
        (InputConfiguration.syncEnabled_of_marks marked) _
    · exact Nat.zero_le _
  obtain ⟨left, split, leaves⟩ := run.leaves (proceed_leaves _ _)
    (InputConfiguration.payloads_nonempty room) whole
  refine ⟨tallies.drawn.of_leaves leaves, ?_⟩
  intro marked
  have enabled := InputConfiguration.syncEnabled_of_marks marked
  rw [if_pos marked] at split
  rw [Attempt.markerIndex?, Attempt.isSilent, Attempt.datagrams]
  cases sent : datagrams exchanges with
  | nil => rfl
  | cons first rest =>
    rw [sent] at split
    have opens := InputConfiguration.decode?_head_payloads enabled _
      (congrArg List.head? split)
    simp only [List.head?_cons, Option.bind_some, opens, Option.map_some]
    rfl

/-- A write that is refused changes nothing, and does not count as started. -/
theorem write_refused
    (refused : (stream.beginWrite frame).value = (stream, .finished (.error error)))
    (run : Writes (stream.beginWrite frame).value exchanges (next, .finished result)) :
    Tallies configuration completed used next ∧
      (Attempt.mk frame exchanges result).isStarted = false ∧ result.isOk = false := by
  rw [refused] at run
  obtain ⟨⟨lifecycle, same⟩, _, unasked⟩ := run.of_finished
  cases same
  refine ⟨⟨tallies.configuration_eq, tallies.frameCounter_eq, tallies.syncIndex_eq⟩, ?_, rfl⟩
  simp only [Attempt.isStarted, unasked, Bool.or_false]
  rfl

end Tallies

theorem markerIndex?_of_tries (run : Tries stream attempts last)
    (tallies : Tallies configuration completed used stream)
    (whole : ∀ attempt ∈ attempts, ∀ exchange ∈ attempt.exchanges, exchange.TakesWhole)
    (found : (configuration.markedAttempts completed attempts)[place]? = some attempt) :
    attempt.markerIndex? configuration =
      if attempt.isSilent then none else some (UInt32.ofNat (used + place)) := by
  induction run generalizing completed used place with
  | done => cases found
  | signal run ih => exact ih (tallies.signal _) whole found
  | resume activation run ih => exact ih (tallies.resume activation) whole found
  | @write exchanges next result attempts last stream frame written run ih =>
    have ⟨here, after⟩ := List.forall_mem_cons.mp whole
    rw [InputConfiguration.markedAttempts] at found
    rcases stream.beginWrite_cases frame with ⟨error, refused⟩ | ⟨exact, active⟩
    · obtain ⟨next, unstarted, failed⟩ := tallies.write_refused refused written
      simp only [unstarted, failed, Bool.false_and, Bool.false_eq_true, if_false,
        Nat.add_zero] at found
      exact ih next after found
    · obtain ⟨next, opening⟩ := tallies.write_accepted active exact written here
      rw [beginWrite_drawn active exact] at written
      have started : (Attempt.mk frame exchanges result).isStarted = true := written.started
      simp only [started, Bool.true_and] at found
      by_cases marked : configuration.marks completed = true
      · rw [if_pos marked] at found next
        cases place with
        | zero =>
          cases found
          exact opening marked
        | succ place =>
          have later := ih next after found
          rwa [Nat.add_assoc, Nat.add_comm 1 place] at later
      · rw [if_neg marked] at found next
        exact ih next after found

/-- Elements that each show their place in 32 bits, or nothing, show consecutive numbers exactly if
the silent ones before each other one are a multiple of what 32 bits hold. -/
theorem filterMap_eq_range_iff {elements : List α} {shown : α → Option UInt32} {silent : α → Bool}
    (start shift : Nat)
    (known : ∀ place element, elements[place]? = some element →
      shown element = if silent element then none else some (UInt32.ofNat (start + place))) :
    elements.filterMap shown =
        (List.range' shift (elements.filterMap shown).length).map UInt32.ofNat ↔
      ∀ place element, elements[place]? = some element → silent element = false →
        UInt32.ofNat (start + (elements.take place).countP silent) = UInt32.ofNat shift := by
  induction elements generalizing start shift with
  | nil => simp
  | cons first rest ih =>
    have shows := known 0 first rfl
    have later : ∀ place element, rest[place]? = some element →
        shown element =
          if silent element then none else some (UInt32.ofNat (start + 1 + place)) := by
      intro place element found
      rw [known (place + 1) element found, Nat.add_right_comm, Nat.add_assoc]
    rw [← Nat.and_forall_add_one]
    by_cases quiet : silent first = true
    · rw [if_pos quiet] at shows
      rw [List.filterMap_cons_none shows, ih (start + 1) shift later]
      simp [quiet, Nat.add_assoc, Nat.add_comm 1]
    · rw [if_neg quiet, Nat.add_zero] at shows
      rw [List.filterMap_cons_some shows, List.length_cons, List.range'_succ, List.map_cons,
        List.cons.injEq, ih (start + 1) (shift + 1) later]
      simp [quiet, Nat.add_right_comm start 1]

/-- After an activation without `resume` the indices on the wire are consecutive from zero exactly
if no marker is missed: before every marked frame of which anything is sent, none of the marked
attempts was silent, or as many as bring the 32 bits of an index back to where they were. -/
theorem wire_indices_consecutive_iff {stream last : InputStream} {activated : Logged InputStream}
    {batchSize : UInt16} {attempts : List Attempt}
    (activation : stream.completeActivation batchSize false = .ok activated)
    (run : Tries activated.value attempts last)
    (whole : ∀ attempt ∈ attempts, ∀ exchange ∈ attempt.exchanges, exchange.TakesWhole) :
    stream.configuration.wireIndices attempts =
        (List.range (stream.configuration.wireIndices attempts).length).map UInt32.ofNat ↔
      ∀ place attempt,
        (stream.configuration.markedAttempts 0 attempts)[place]? = some attempt →
        attempt.isSilent = false →
        UInt32.size ∣
          ((stream.configuration.markedAttempts 0 attempts).take place).countP
            Attempt.isSilent := by
  have ⟨counts, _⟩ := completeActivation_counts activation
  have tallies : Tallies stream.configuration 0 0 activated.value := by
    obtain ⟨configuration_eq, _, counted⟩ := counts
    refine ⟨configuration_eq, ?_, ?_⟩ <;> rw [counted] <;> rfl
  have multiple (count : Nat) :
      UInt32.ofNat (0 + count) = UInt32.ofNat 0 ↔ UInt32.size ∣ count := by
    rw [Nat.zero_add, ← UInt32.toNat_inj, UInt32.toNat_ofNat', Nat.dvd_iff_mod_eq_zero]
    rfl
  have shown := filterMap_eq_range_iff 0 0 fun place attempt =>
    markerIndex?_of_tries run tallies whole
  simp only [multiple] at shown
  rw [InputConfiguration.wireIndices, List.range_eq_range']
  exact shown

private def marking : InputConfiguration :=
  (InputConfiguration.ofParameters { syncEnabled := true, maximumPayload := 12 }
    ⟨"edge", .hostToDevice, 8, 1⟩).toOption.get rfl

private def markingStream (isActivated isAborted : Bool) (sent : UInt64) (used : UInt32) :
    InputStream :=
  { layer := ⟨"edge", .hostToDevice, 8, 1⟩, configuration := marking,
    lifecycle := { name := "edge", isActivated, isAborted }, timeout := .zero, batchSize := 1,
    frameCounter := sent, syncIndex := used }

private def markingPayload (index : UInt32) : Bytes :=
  SyncMarker.encode ⟨index⟩ 8 ++ [1, 2, 3, 4]

private theorem payloads_marking (index : UInt32) :
    marking.payloads (some ⟨index⟩) [1, 2, 3, 4, 5, 6, 7, 8] =
      [markingPayload index, [5, 6, 7, 8]] := by
  have room : (marking.header (some ⟨index⟩)).length ≤ marking.maximumPayload :=
    InputConfiguration.header_length_le rfl ⟨index⟩
  have longer : 12 < (marking.header (some ⟨index⟩) ++ [1, 2, 3, 4, 5, 6, 7, 8]).length := by
    change 12 < 16
    decide
  rw [InputConfiguration.payloads_eq_image room (by decide),
    InputConfiguration.image_of_unpadded rfl (by decide)]
  change pieces 12 _ = _
  rw [pieces_of_lt (by decide) longer]
  change markingPayload index :: pieces 12 [5, 6, 7, 8] = _
  rw [pieces_of_le (by decide) (by decide)]

private theorem beginWrite_marking (index : UInt32) :
    ((markingStream true false 0 index).beginWrite [1, 2, 3, 4, 5, 6, 7, 8]).value =
      (markingStream true false 0 (index + 1),
        .waiting (.asking (markingPayload index) [[5, 6, 7, 8]])) := by
  rw [beginWrite_drawn rfl rfl]
  change (InputStream.proceed _ (marking.payloads (some ⟨index⟩) _)).value = _
  rw [payloads_marking]
  rfl

private def smoothAttempt (index : UInt32) : Attempt :=
  ⟨[1, 2, 3, 4, 5, 6, 7, 8], unhindered [markingPayload index, [5, 6, 7, 8]], .ok ()⟩

private theorem tries_smooth (index : UInt32) :
    Tries (markingStream true false 0 index) [smoothAttempt index]
      (markingStream true false 1 (index + 1)) := by
  have nonempty : ∀ payload ∈ [markingPayload index, [5, 6, 7, 8]], payload ≠ [] := by
    rw [List.forall_mem_cons, List.forall_mem_singleton]
    exact ⟨List.cons_ne_nil _ _, List.cons_ne_nil _ _⟩
  have run := writes_unhindered (markingStream true false 0 (index + 1)) nonempty
  refine .write ?_ .done
  rw [beginWrite_marking]
  exact run

private theorem completeActivation_marking :
    (markingStream false false 0 0).completeActivation 1 false =
      .ok ⟨markingStream true false 0 0, [.activated "edge", .inputActivation "edge" 1 false]⟩ :=
  rfl

/-- A write that is aborted after its first payload was sent, and one that succeeds. -/
theorem wire_indices_of_aborted :
    ∃ (stream last : InputStream) (activated : Logged InputStream) (attempts : List Attempt),
      stream.completeActivation 1 false = .ok activated ∧
        Tries activated.value attempts last ∧
        attempts.map (Except.isOk ∘ Attempt.result) = [false, true] ∧
        stream.configuration.wireIndices attempts = [0, 1] := by
  let aborted : Attempt :=
    ⟨[1, 2, 3, 4, 5, 6, 7, 8],
      [.reserve 12 (.ok .zero), .send (markingPayload 0) (.ok 12),
        .reserve 4 (.ok (.ofMilliseconds 5)), .signal .abort,
        .rest (.ofMilliseconds 5) (.error .aborted)],
      .error .aborted⟩
  have stopped : Writes ((markingStream true false 0 0).beginWrite aborted.frame).value
      aborted.exchanges (markingStream true true 0 1, .finished aborted.result) := by
    rw [beginWrite_marking]
    exact .reserve (.send (.reserve (.signal (.rest .done))))
  have cleared : Tries ((markingStream true true 0 1).signal .clearAbort).value [smoothAttempt 1]
      (markingStream true false 1 2) := tries_smooth 1
  have run : Tries (markingStream true false 0 0) [aborted, smoothAttempt 1]
      (markingStream true false 1 2) := .write stopped (.signal cleared)
  have whole : ∀ attempt ∈ [aborted, smoothAttempt 1],
      ∀ exchange ∈ attempt.exchanges, exchange.TakesWhole := by
    refine List.forall_mem_cons.mpr ⟨?_, List.forall_mem_singleton.mpr ?_⟩
    · intro exchange member
      simp only [aborted, List.mem_cons, List.not_mem_nil, or_false] at member
      rcases member with rfl | rfl | rfl | rfl | rfl
      · trivial
      · exact Nat.le_refl 12
      · trivial
      · trivial
      · trivial
    · intro exchange member
      exact unhindered_takesWhole member
  have consecutive := (wire_indices_consecutive_iff completeActivation_marking run whole).mpr ?_
  · exact ⟨_, _, _, _, completeActivation_marking, run, rfl, consecutive⟩
  · rintro (_ | _ | place) attempt found _
    · exact Nat.dvd_zero _
    · exact Nat.dvd_zero _
    · cases found

/-- A write that is aborted before its first payload may be sent uses up an index, so that the next
marker on the wire has skipped it. -/
theorem wire_indices_skip :
    ¬ ∀ (stream last : InputStream) (activated : Logged InputStream) (batchSize : UInt16)
      (attempts : List Attempt),
      stream.configuration.syncEnabled = true → 0 < stream.layer.frameSize →
      stream.completeActivation batchSize false = .ok activated →
      Tries activated.value attempts last →
      (∀ attempt ∈ attempts, ∀ exchange ∈ attempt.exchanges, exchange.TakesWhole) →
      stream.configuration.wireIndices attempts =
        (List.range (stream.configuration.wireIndices attempts).length).map UInt32.ofNat := by
  intro claim
  let throttled : Attempt :=
    ⟨[1, 2, 3, 4, 5, 6, 7, 8],
      [.reserve 12 (.ok (.ofMilliseconds 12)), .signal .abort,
        .rest (.ofMilliseconds 12) (.error .aborted)],
      .error .aborted⟩
  have stopped : Writes ((markingStream true false 0 0).beginWrite throttled.frame).value
      throttled.exchanges (markingStream true true 0 1, .finished throttled.result) := by
    rw [beginWrite_marking]
    exact .reserve (.signal (.rest .done))
  have cleared : Tries ((markingStream true true 0 1).signal .clearAbort).value [smoothAttempt 1]
      (markingStream true false 1 2) := tries_smooth 1
  have whole : ∀ attempt ∈ [throttled, smoothAttempt 1],
      ∀ exchange ∈ attempt.exchanges, exchange.TakesWhole := by
    refine List.forall_mem_cons.mpr ⟨?_, List.forall_mem_singleton.mpr ?_⟩
    · intro exchange member
      simp only [throttled, List.mem_cons, List.not_mem_nil, or_false] at member
      rcases member with rfl | rfl | rfl <;> trivial
    · intro exchange member
      exact unhindered_takesWhole member
  have consecutive := claim (markingStream false false 0 0) _ _ 1 _ rfl (by decide)
    completeActivation_marking (.write stopped (.signal cleared)) whole
  have skipped : marking.wireIndices [throttled, smoothAttempt 1] = [1] := rfl
  change marking.wireIndices _ = _ at consecutive
  rw [skipped] at consecutive
  exact absurd consecutive (by decide)

end InputStream

end FrameStream
