import FrameStream.Proofs.Activation
import FrameStream.Proofs.Deeds

namespace FrameStream

/-- A way to stop an active stream and to make it active again. -/
inductive Detour where
  | deactivation (requested : UInt16)
  | abort
  | reactivation (requested : UInt16)
  deriving Repr

namespace Detour

def requested? : Detour → Option UInt16
  | .deactivation requested | .reactivation requested => some requested
  | .abort => none

def deeds (role : Role) : Detour → List Deed
  | .deactivation requested =>
    [.occur (.signal role .deactivate), .activate role requested true []]
  | .abort => [.occur (.signal role .abort), .occur (.signal role .clearAbort)]
  | .reactivation requested => [.occur (.signal role .abort), .activate role requested true []]

end Detour

/-- A deed, or a detour of one of the two streams. -/
inductive Stop where
  | deed (deed : Deed)
  | detour (role : Role) (detour : Detour)

def Stop.deed? : Stop → Option Deed
  | .deed action => some action
  | .detour .. => none

namespace Session

def layer? (session : Session) : Role → Option Layer
  | .input => session.input?.map (·.stream.layer)
  | .output => session.output?.map (·.stream.layer)

/-- Where a detour can be made: its stream is active, and the device is ready if it is to be
activated again, with a batch size that its layer allows. -/
structure Permits (session : Session) (role : Role) (detour : Detour) : Prop where
  active : session.state? role = some .active
  ready : ∀ requested ∈ detour.requested?, session.shared.isReady = true
  within : ∀ requested ∈ detour.requested?, ∀ layer ∈ session.layer? role,
    requested ≤ layer.maximumBatchSize

/-- A course of deeds without the detours comes only to places where they can be made. -/
def Permitted (session : Session) (now : Nat) : List Stop → Prop
  | [] => True
  | .detour role detour :: stops => session.Permits role detour ∧ session.Permitted now stops
  | .deed deed :: stops =>
    let run := session.perform now deed
    run.result.isSome = true → run.world.Permitted run.now stops

/-- The course of deeds with the detours. What these are answered is not among the results. -/
def tour (session : Session) (now : Nat) : List Stop → Course
  | [] => { now, world := session }
  | .detour role detour :: stops =>
    let away := session.course now (detour.deeds role)
    away.world.tour away.now stops
  | .deed deed :: stops =>
    let run := session.perform now deed
    match run.result with
    | none => { now := run.now, world := run.world, isOver := false }
    | some result =>
      let rest := run.world.tour run.now stops
      { rest with results := result :: rest.results }

/-- Sessions that differ in the batch sizes of their streams and in what was reported at most. -/
structure Rebatched (session other : Session) : Prop where
  shared_eq : other.shared = session.shared
  shaper_eq : other.shaper = session.shaper
  registry_eq : other.registry = session.registry
  input : Option.Rel (fun side next => ∃ batchSize,
    next = { side with stream := { side.stream with batchSize } }) session.input? other.input?
  output : Option.Rel (fun side next => ∃ batchSize,
    next = { side with stream := { side.stream with batchSize } }) session.output? other.output?

variable {session other : Session}

theorem Like.rebatched (alike : Like false {} session other) : Rebatched session other := by
  obtain ⟨shared_eq, shaper_eq, registry_eq, input, output⟩ := alike
  refine ⟨shared_eq, shaper_eq, registry_eq, ?_, ?_⟩
  · generalize session.input? = first at input ⊢
    generalize other.input? = second at input ⊢
    cases input with
    | none => exact .none
    | some like =>
      obtain ⟨rebatch, _⟩ := like
      exact .some ⟨_, rfl⟩
  · generalize session.output? = first at output ⊢
    generalize other.output? = second at output ⊢
    cases output with
    | none => exact .none
    | some like =>
      obtain ⟨rebatch, _⟩ := like
      rw [OutputStream.varied, OutputStatistics.empty_plus]
      exact .some ⟨_, rfl⟩

section Resume

variable (request : Lifecycle.Signal) (stops : request ≠ .clearAbort)
  (ready : session.shared.isReady = true) (now : Nat)
include ready stops

/-- A stream that a signal stops can be resumed at once. -/
theorem resume_input (present : session.input? = some side)
    (active : side.stream.lifecycle.state = .active)
    (within : requested ≤ side.stream.layer.maximumBatchSize) :
    ∃ world, Like false {} session world ∧
      session.course now [.occur (.signal .input request), .activate .input requested true []] =
        { now, world, results := [.ok .done, .ok .done] } := by
  obtain ⟨shared, shaper, registry, input?, output?, events⟩ := session
  cases present
  obtain ⟨batchSize, accepted⟩ := Layer.batchSize_of_le within
  let stopped : Session :=
    { shared, shaper, registry, output?
      input? := some { side with stream := (side.stream.signal request).value }
      events := events ++ (side.stream.signal request).events }
  have occurred : occur ⟨shared, shaper, registry, some side, output?, events⟩
      (.signal .input request) = stopped := rfl
  obtain ⟨reported, resumed⟩ := stopped.activate_input_of_ready ready rfl
    (side.stream.lifecycle.signal_stops stops) accepted now true []
  dsimp only at resumed
  rw [InputStream.activated_signal active] at resumed
  refine ⟨_, ?_, by simp only [course, perform, done, occurred, resumed]; rfl⟩
  exact { Like.refl _ with input := .some (.rebatched side batchSize) }

theorem resume_output (present : session.output? = some side)
    (active : side.stream.lifecycle.state = .active)
    (within : requested ≤ side.stream.layer.maximumBatchSize) :
    ∃ world, Like false {} session world ∧
      session.course now [.occur (.signal .output request), .activate .output requested true []] =
        { now, world, results := [.ok .done, .ok .done] } := by
  obtain ⟨shared, shaper, registry, input?, output?, events⟩ := session
  cases present
  obtain ⟨batchSize, accepted⟩ := Layer.batchSize_of_le within
  let stopped : Session :=
    { shared, shaper, registry, input?
      output? := some { side with stream := (side.stream.signal request).value }
      events := events ++ (side.stream.signal request).events }
  have occurred : occur ⟨shared, shaper, registry, input?, some side, events⟩
      (.signal .output request) = stopped := by
    cases input? <;> rfl
  obtain ⟨reported, resumed⟩ := stopped.activate_output_of_ready ready rfl
    (side.stream.lifecycle.signal_stops stops) accepted now true []
  dsimp only at resumed
  rw [OutputStream.activated_signal active] at resumed
  refine ⟨_, ?_, by simp only [course, perform, done, occurred, resumed]; rfl⟩
  exact { Like.refl _ with output := .some (.rebatched side batchSize) }

theorem resume_stopped (active : session.state? role = some .active)
    (within : ∀ layer ∈ session.layer? role, requested ≤ layer.maximumBatchSize) :
    ∃ world, Like false {} session world ∧
      session.course now [.occur (.signal role request), .activate role requested true []] =
        { now, world, results := [.ok .done, .ok .done] } := by
  cases role with
  | input =>
    obtain ⟨side, present, active⟩ := Option.map_eq_some_iff.mp active
    have known : session.layer? .input = some side.stream.layer := by rw [layer?, present]; rfl
    exact resume_input request stops ready now present active (within _ known)
  | output =>
    obtain ⟨side, present, active⟩ := Option.map_eq_some_iff.mp active
    have known : session.layer? .output = some side.stream.layer := by rw [layer?, present]; rfl
    exact resume_output request stops ready now present active (within _ known)

end Resume

theorem clear_abort (active : session.state? role = some .active) :
    ∃ events, (session.occur (.signal role .abort)).occur (.signal role .clearAbort) =
      { session with events } := by
  obtain ⟨shared, shaper, registry, input?, output?, events⟩ := session
  cases role with
  | input =>
    obtain ⟨side, present, working⟩ := Option.map_eq_some_iff.mp active
    cases present
    have occurred : ∃ reported,
        (occur ⟨shared, shaper, registry, some side, output?, events⟩
          (.signal .input .abort)).occur (.signal .input .clearAbort) =
        ⟨shared, shaper, registry,
          some { side with stream := ((side.stream.signal .abort).value.signal .clearAbort).value },
          output?, reported⟩ := ⟨_, rfl⟩
    rwa [InputStream.signal_clearAbort working] at occurred
  | output =>
    obtain ⟨side, present, working⟩ := Option.map_eq_some_iff.mp active
    cases present
    have occurred : ∃ reported,
        (occur ⟨shared, shaper, registry, input?, some side, events⟩
          (.signal .output .abort)).occur (.signal .output .clearAbort) =
        ⟨shared, shaper, registry, input?,
          some { side with stream := ((side.stream.signal .abort).value.signal .clearAbort).value },
          reported⟩ := by
      cases input? <;> exact ⟨_, rfl⟩
    rwa [OutputStream.signal_clearAbort working] at occurred

/-- A detour takes no time and succeeds, and leads back to where it started, but for the batch size
and what is reported. -/
theorem course_detour (permits : session.Permits role detour) (now : Nat) :
    ∃ world, Like false {} session world ∧ session.course now (detour.deeds role) =
      { now, world, results := [.ok .done, .ok .done] } := by
  obtain ⟨active, ready, within⟩ := permits
  cases detour with
  | deactivation requested =>
    exact resume_stopped .deactivate (by decide) (ready _ rfl) now active (within _ rfl)
  | abort =>
    obtain ⟨events, cleared⟩ := clear_abort active
    refine ⟨{ session with events }, { Like.refl session with }, ?_⟩
    simp only [Detour.deeds, course, perform, done, cleared]
  | reactivation requested =>
    exact resume_stopped .abort (by decide) (ready _ rfl) now active (within _ rfl)

theorem Like.permits (alike : Like false {} session other)
    (permits : session.Permits role detour) : other.Permits role detour := by
  have same : other.state? role = session.state? role ∧
      other.layer? role = session.layer? role := by
    obtain ⟨_, _, _, input, output⟩ := alike
    cases role with
    | input =>
      unfold state? layer?
      generalize session.input? = first at input ⊢
      generalize other.input? = second at input ⊢
      cases input with
      | none => exact ⟨rfl, rfl⟩
      | some like =>
        obtain ⟨rebatch, _⟩ := like
        exact ⟨rfl, rfl⟩
    | output =>
      unfold state? layer?
      generalize session.output? = first at output ⊢
      generalize other.output? = second at output ⊢
      cases output with
      | none => exact ⟨rfl, rfl⟩
      | some like =>
        obtain ⟨rebatch, _⟩ := like
        exact ⟨rfl, rfl⟩
  obtain ⟨state_eq, layer_eq⟩ := same
  exact ⟨state_eq ▸ permits.active, alike.shared_eq ▸ permits.ready, layer_eq ▸ permits.within⟩

/-- A course with detours and the one without stay alike: a detour leads to a session that is like
the one it started from, and a deed comes to the same in both. -/
theorem tour_alike (alike : Like false {} session other) (now : Nat) (stops : List Stop)
    (permitted : session.Permitted now stops) :
    Course.Alike false {} (session.course now (stops.filterMap Stop.deed?))
      (other.tour now stops) := by
  induction stops generalizing session other now with
  | nil => exact ⟨alike, rfl, rfl, rfl⟩
  | cons stop stops ih =>
    cases stop with
    | detour role detour =>
      obtain ⟨permits, permitted⟩ := permitted
      obtain ⟨world, like, away⟩ := course_detour (alike.permits permits) now
      rw [tour, away]
      exact ih (alike.trans like) now permitted
    | deed deed =>
      obtain ⟨next, later, same⟩ := perform_alike alike now deed
      unfold Permitted at permitted
      change Course.Alike false {} (session.course now (deed :: stops.filterMap Stop.deed?)) _
      rw [course, tour]
      dsimp only at permitted ⊢
      rw [same, later]
      generalize (session.perform now deed).result = result? at permitted ⊢
      cases result? with
      | none => exact ⟨next, rfl, rfl, rfl⟩
      | some result =>
        have rest := ih next _ (permitted rfl)
        exact ⟨rest.like, rest.now_eq, congrArg (result :: ·) rest.results_eq, rest.isOver_eq⟩

/-- Stopping a stream between two operations and making it active again as it was changes nothing of
what comes of all the others: neither when they end, nor their results, nor what is sent and what is
taken from the transport, nor what the streams hold, but for the batch size. -/
theorem tour_matches_course (permitted : session.Permitted now stops) :
    let plain := session.course now (stops.filterMap Stop.deed?)
    let toured := session.tour now stops
    Rebatched plain.world toured.world ∧ toured.now = plain.now ∧
      toured.results = plain.results ∧ toured.isOver = plain.isOver := by
  have alike := tour_alike (.refl session) now stops permitted
  exact ⟨alike.like.rebatched, alike.now_eq, alike.results_eq, alike.isOver_eq⟩

private def awaiting : Session :=
  let layer : Layer := ⟨"edge", .deviceToHost, 4, 8⟩
  let stream : OutputStream :=
    { layer
      configuration :=
        (OutputConfiguration.ofParameters { syncEnabled := true } layer).toOption.get rfl
      lifecycle := { name := "edge", isActivated := true }, timeout := defaultTimeout
      batchSize := 1 }
  { shared := ⟨Channel.inMemory 1472, true⟩, shaper := ⟨false, fun _ => none⟩
    output? := some ⟨stream, ⟨.host, []⟩⟩ }

/-- A frame is lost, and the stream hunts; stopped and resumed in each of the three ways, it still
does, and finds the next frame behind its marker. -/
theorem tour_matches_course_of_lost_frame :
    ∃ (session : Session) (stops : List Stop) (toured : Course),
      session.Permitted 0 stops ∧ toured = session.tour 0 stops ∧
        toured.results = [.ok .done, .error (.timeout "receive" defaultTimeout),
          .ok (.frame [1, 2, 3, 4])] ∧
        toured.world.output?.map (·.stream.batchSize) = some 4 ∧
        Rebatched (session.course 0 (stops.filterMap Stop.deed?)).world toured.world ∧
        toured.results = (session.course 0 (stops.filterMap Stop.deed?)).results := by
  let next : Schedule :=
    [(10001, .arrival (SyncMarker.encode ⟨3⟩ 8)), (10002, .arrival [1, 2, 3, 4])]
  let stops : List Stop :=
    [.deed (.occur (.arrival [5, 6])), .deed (.read none []), .detour .output .abort,
      .detour .output (.reactivation 0), .deed (.read none next), .detour .output (.deactivation 4)]
  have permitted : awaiting.Permitted 0 stops := by
    refine fun _ _ => ⟨⟨rfl, nofun, nofun⟩, ⟨rfl, fun _ _ => rfl, ?_⟩, fun _ =>
      ⟨⟨rfl, fun _ _ => rfl, ?_⟩, trivial⟩⟩
    · rintro _ ⟨⟩ _ ⟨⟩
      decide
    · rintro _ ⟨⟩ _ ⟨⟩
      decide
  obtain ⟨rebatched, _, same, _⟩ := tour_matches_course permitted
  refine ⟨awaiting, stops, _, permitted, rfl, ?_, ?_, rebatched, same⟩
  · decide +kernel
  · decide +kernel

end Session

end FrameStream
