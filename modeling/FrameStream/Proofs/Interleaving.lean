import FrameStream.Proofs.Completion

/-!
Operations among other tasks. An operation is looked at until it is over or blocked; while it is
blocked others act, in any order and as often as they like, and then it is looked at again, at any
time. What is scheduled for an operation is one such interleaving.
-/

namespace FrameStream

namespace Process

variable {World Activity Happening Result : Type}
  {process : Process World Activity Happening Result}

/-- One look at an operation, with what others did since the look before it. -/
structure Glance (World Activity Happening Result : Type) where
  earlier : World
  happened : List Happening
  before : World
  after : World × Look Activity Result

/-- The look finds that the operation is over, and leaves the world as it was. -/
def Glance.Ends (glance : Glance World Activity Happening Result) (result : Result) : Prop :=
  glance.after = (glance.before, .finished result)

/-- Looks at an operation, from what the first of them starts with to what the last one found.
Others act only while the operation is blocked. -/
inductive Interleaves (process : Process World Activity Happening Result) :
    World × Look Activity Result → List (Glance World Activity Happening Result) →
    World × Look Activity Result → Prop where
  | done : Interleaves process found [] found
  | look : Interleaves process (process.look now world activity) glances last →
      Interleaves process (world, .ready activity)
        (⟨world, [], world, process.look now world activity⟩ :: glances) last
  | poll {happened : List Happening} : happened.foldl process.occur earlier = before →
      Interleaves process (process.look now before activity) glances last →
      Interleaves process (earlier, .blocked activity wakeUp)
        (⟨earlier, happened, before, process.look now before activity⟩ :: glances) last

/-- What every look keeps, whatever happened before it, holds all along; and so does what it
guarantees of a single look. -/
theorem Interleaves.forall_glances {holds : World × Look Activity Result → Prop}
    {safe : Glance World Activity Happening Result → Prop}
    (ready : ∀ now world activity, holds (world, .ready activity) →
      holds (process.look now world activity) ∧
        safe ⟨world, [], world, process.look now world activity⟩)
    (blocked : ∀ now earlier activity wakeUp happened, holds (earlier, .blocked activity wakeUp) →
      let before := happened.foldl process.occur earlier
      holds (process.look now before activity) ∧
        safe ⟨earlier, happened, before, process.look now before activity⟩)
    (start : holds first) (run : process.Interleaves first glances last) :
    holds last ∧ ∀ glance ∈ glances, safe glance := by
  induction run with
  | done => exact ⟨start, nofun⟩
  | @look now world activity _ _ _ ih =>
    have ⟨kept, here⟩ := ready now world activity start
    have ⟨last, later⟩ := ih kept
    exact ⟨last, List.forall_mem_cons.mpr ⟨here, later⟩⟩
  | @poll earlier before now activity _ _ wakeUp happened occurred _ ih =>
    subst occurred
    have ⟨kept, here⟩ := blocked now earlier activity wakeUp happened start
    have ⟨last, later⟩ := ih kept
    exact ⟨last, List.forall_mem_cons.mpr ⟨here, later⟩⟩

/-- Following an operation through a schedule is an interleaving. -/
theorem interleaves_of_run {schedule : List (Nat × Happening)}
    (found : (process.run looks now schedule world activity).result = some result) :
    ∃ glances, process.Interleaves (process.look now world activity) glances
      ((process.run looks now schedule world activity).world, .finished result) := by
  induction looks generalizing now schedule world activity with
  | zero => cases found
  | succ looks ih =>
    rw [run] at found ⊢
    cases looked : process.look now world activity with
    | mk next find =>
      rw [looked] at found
      cases find with
      | finished reached =>
        cases found
        exact ⟨[], .done⟩
      | ready activity =>
        obtain ⟨glances, run⟩ := ih found
        exact ⟨_, .look run⟩
      | blocked activity wakeUp =>
        simp only at found ⊢
        generalize wakeUp.filter _ = first at found ⊢
        generalize schedule.head?.map _ = coming at found ⊢
        cases first with
        | some wake =>
          obtain ⟨glances, run⟩ := ih found
          have undisturbed : ([] : List Happening).foldl process.occur next = next := rfl
          exact ⟨_, .poll undisturbed run⟩
        | none =>
          cases coming with
          | none => cases found
          | some time =>
            obtain ⟨glances, run⟩ := ih found
            exact ⟨_, .poll List.foldl_map run⟩

end Process

def Happening.signal? (role : Role) : Happening → Option Lifecycle.Signal
  | .signal other request => if other = role then some request else none
  | _ => none

def Happening.arrival? : Happening → Option Bytes
  | .arrival datagram => some datagram
  | _ => none

def Happening.signals (role : Role) (happened : List Happening) : List Lifecycle.Signal :=
  happened.filterMap (Happening.signal? role)

def Happening.arrivals (happened : List Happening) : List Bytes :=
  happened.filterMap Happening.arrival?

namespace Lifecycle

def signalled (lifecycle : Lifecycle) (requests : List Signal) : Lifecycle :=
  requests.foldl (fun lifecycle request => (lifecycle.signal request).value) lifecycle

variable {lifecycle : Lifecycle} {requests : List Signal}

theorem signalled_append (lifecycle : Lifecycle) (first second : List Signal) :
    lifecycle.signalled (first ++ second) = (lifecycle.signalled first).signalled second :=
  List.foldl_append

theorem signalled_inactive (inactive : lifecycle.isActivated = false) :
    (lifecycle.signalled requests).isActivated = false := by
  induction requests generalizing lifecycle with
  | nil => exact inactive
  | cons request requests ih => exact ih (by cases request <;> first | exact inactive | rfl)

/-- Once it is deactivated, a stream is not active whatever signals follow. -/
theorem signalled_deactivate (member : .deactivate ∈ requests) :
    (lifecycle.signalled requests).state ≠ .active := by
  obtain ⟨first, second, rfl⟩ := List.append_of_mem member
  have inactive : (lifecycle.signalled (first ++ .deactivate :: second)).isActivated = false := by
    rw [signalled_append]
    change ((lifecycle.signalled first).deactivate.value.signalled second).isActivated = false
    exact signalled_inactive rfl
  rw [state, inactive]
  split <;> nofun

/-- An abort lasts until it is cleared or the stream is deactivated. -/
theorem signalled_abort (uncleared : .clearAbort ∉ requests) (kept : .deactivate ∉ requests)
    (aborted : lifecycle.isAborted = true) : (lifecycle.signalled requests).isAborted = true := by
  induction requests generalizing lifecycle with
  | nil => exact aborted
  | cons request requests ih =>
    refine ih (fun member => uncleared (.tail _ member)) (fun member => kept (.tail _ member)) ?_
    cases request with
    | abort => rfl
    | clearAbort => exact absurd (.head _) uncleared
    | deactivate => exact absurd (.head _) kept

end Lifecycle

namespace Session

/-- The lifecycle of one of the streams. -/
def lifecycle? (session : Session) : Role → Option Lifecycle
  | .input => session.input?.map (·.stream.lifecycle)
  | .output => session.output?.map (·.stream.lifecycle)

theorem state?_eq (session : Session) (role : Role) :
    session.state? role = (session.lifecycle? role).map Lifecycle.state := by
  obtain ⟨shared, shaper, registry, input?, output?, events⟩ := session
  cases role <;> cases input? <;> cases output? <;> rfl

def queued (session : Session) : List Bytes :=
  match session.output? with
  | none => []
  | some output => (session.shared.channel.endpoint output.port.side).inbox

variable {session : Session}

theorem lifecycle?_occur (session : Session) (role : Role) (happening : Happening) :
    (session.occur happening).lifecycle? role =
      (session.lifecycle? role).map fun lifecycle =>
        lifecycle.signalled (happening.signal? role).toList := by
  obtain ⟨shared, shaper, registry, input?, output?, events⟩ := session
  cases happening with
  | arrival datagram => cases role <;> cases input? <;> cases output? <;> rfl
  | readiness isReady => cases role <;> cases input? <;> cases output? <;> rfl
  | signal other request =>
    cases other <;> cases role <;> cases input? <;> cases output? <;> rfl

theorem lifecycle?_occurs (session : Session) (role : Role) (happened : List Happening) :
    (happened.foldl occur session).lifecycle? role =
      (session.lifecycle? role).map (·.signalled (Happening.signals role happened)) := by
  induction happened generalizing session with
  | nil => exact Option.map_id'.symm
  | cons happening happened ih =>
    have joined : Happening.signals role (happening :: happened) =
        (happening.signal? role).toList ++ Happening.signals role happened := by
      rw [Happening.signals, List.filterMap_cons]
      cases happening.signal? role <;> rfl
    rw [List.foldl_cons, ih, lifecycle?_occur, Option.map_map, joined]
    simp only [Lifecycle.signalled_append, Function.comp_def]

theorem queued_occur (present : session.output?.isSome = true) (happening : Happening) :
    (session.occur happening).output?.isSome = true ∧
      (session.occur happening).queued = session.queued ++ happening.arrival?.toList := by
  obtain ⟨⟨channel, isReady⟩, shaper, registry, input?, output?, events⟩ := session
  obtain ⟨pathLimit, host, device⟩ := channel
  cases output? with
  | none => cases present
  | some output =>
    obtain ⟨stream, side, script⟩ := output
    cases happening with
    | arrival datagram => cases side <;> exact ⟨rfl, rfl⟩
    | readiness isReady => exact ⟨rfl, (List.append_nil _).symm⟩
    | signal role request =>
      cases role <;> cases input? <;> exact ⟨rfl, (List.append_nil _).symm⟩

theorem queued_occurs (present : session.output?.isSome = true) (happened : List Happening) :
    (happened.foldl occur session).queued = session.queued ++ Happening.arrivals happened := by
  induction happened generalizing session with
  | nil => exact (List.append_nil _).symm
  | cons happening happened ih =>
    obtain ⟨kept, queued⟩ := queued_occur present happening
    have joined : Happening.arrivals (happening :: happened) =
        happening.arrival?.toList ++ Happening.arrivals happened := by
      rw [Happening.arrivals, List.filterMap_cons]
      cases happening.arrival? <;> rfl
    rw [List.foldl_cons, ih kept, queued, joined, List.append_assoc]

end Session

end FrameStream
