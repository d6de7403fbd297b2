import FrameStream.Proofs.Handover
import FrameStream.Proofs.Interruption
import FrameStream.Proofs.Timekeeping

namespace FrameStream

namespace Exchange

/-- Whether an exchange is a wait that was cut short. -/
def isCutShort : Exchange → Bool
  | .rest _ (.error _) => true
  | _ => false

end Exchange

/-- A write that asks the limiter for each of its payloads in turn. -/
structure Permitted (payloads : List Bytes) (exchanges : List Exchange)
    (progress : Progress WritePoint (Except StreamError Unit)) : Prop where
  /-- The limiter is asked for the next payload, when those before it were let go and are sent. -/
  asks : ∀ before length answer after, exchanges = before ++ .reserve length answer :: after →
    ∃ gone payload later, payloads = gone ++ payload :: later ∧ length = payload.length ∧
      takenBytes before = gone.flatten ∧ grants before = gone.map List.length
  /-- What is offered, first or as a remainder, is of the payload that was let go last. -/
  offers : ∀ before offered outcome after, exchanges = before ++ .send offered outcome :: after →
    ∃ place : Place payloads, offered = place.rest ∧ takenBytes before = place.passed ∧
      grants before = (place.gone ++ [place.payload]).map List.length
  /-- A limiter that fails ends the write, before anything of the payload is sent. -/
  refused : ∀ before length error after,
    exchanges = before ++ .reserve length (.error error) :: after →
      progress = .finished (.error (.rateLimit error)) ∧
        takenBytes exchanges = takenBytes before ∧ ∀ exchange ∈ after, exchange.isSignal = true
  /-- A wait is cut short only after another task stopped the stream, and ends the write. -/
  interrupted : ∀ before wait error after,
    exchanges = before ++ .rest wait (.error error) :: after →
    progress = .finished (.error error) ∧ (error = .aborted ∨ error = .notActivated) ∧
      (.signal .abort ∈ before ∨ .signal .deactivate ∈ before) ∧
      ∀ exchange ∈ after, exchange.isSignal = true
  complete : progress = .finished (.ok ()) → grants exchanges = payloads.map List.length

theorem takenBytes_signals (signals : ∀ exchange ∈ after, Exchange.isSignal exchange = true)
    (before : List Exchange) : takenBytes (before ++ after) = takenBytes before := by
  induction after generalizing before with
  | nil => rw [List.append_nil]
  | cons exchange after ih =>
    have ⟨first, rest⟩ := List.forall_mem_cons.mp signals
    rw [List.append_cons, ih rest]
    cases exchange with
    | signal request => exact takenBytes_concat rfl before
    | reserve | rest | send => cases first

/-- There is nothing to clear in an active stream. -/
theorem Lifecycle.clearAbort_of_active {lifecycle : Lifecycle}
    (active : lifecycle.state = .active) : (lifecycle.signal .clearAbort).value = lifecycle := by
  obtain ⟨name, isActivated, isAborted⟩ := lifecycle
  cases isAborted with
  | true => cases active
  | false => rfl

namespace InputStream

/-- A stream that was active stops only when another task aborts or deactivates it. -/
theorem Writes.stopped_by_signal (run : Writes start exchanges last)
    (active : start.1.lifecycle.state = .active) (stopped : last.1.lifecycle.state ≠ .active) :
    .signal .abort ∈ exchanges ∨ .signal .deactivate ∈ exchanges := by
  induction run with
  | done => exact absurd active stopped
  | reserve _ ih => exact (ih (by rwa [granted_lifecycle]) stopped).imp (.tail _) (.tail _)
  | rest _ ih => exact (ih (by rwa [rested_lifecycle]) stopped).imp (.tail _) (.tail _)
  | send _ ih => exact (ih (by rwa [delivered_lifecycle]) stopped).imp (.tail _) (.tail _)
  | @signal _ _ _ stream request _ ih =>
    cases request with
    | abort => exact .inl (.head _)
    | deactivate => exact .inr (.head _)
    | clearAbort =>
      have still : (stream.signal .clearAbort).value.lifecycle.state = .active := by
        rw [InputStream.signal, Lifecycle.clearAbort_of_active active]
        exact active
      exact (ih still stopped).imp (.tail _) (.tail _)

namespace TimedWrites

/-- A run in time up to any of its exchanges, and from there on. -/
theorem split (run : TimedWrites start (before ++ record) last) :
    ∃ middle, TimedWrites start before middle ∧ TimedWrites middle record last := by
  generalize whole : before ++ record = exchanges at run
  induction run generalizing before with
  | done =>
    obtain ⟨rfl, rfl⟩ := List.append_eq_nil_iff.mp whole
    exact ⟨_, .done, .done⟩
  | pass forward _ ih =>
    obtain ⟨middle, first, rest⟩ := ih whole
    exact ⟨middle, .pass forward first, rest⟩
  | reserve run ih =>
    rcases List.append_eq_cons_iff.mp whole with ⟨rfl, rfl⟩ | ⟨before, rfl, same⟩
    · exact ⟨_, .done, .reserve run⟩
    · obtain ⟨middle, first, rest⟩ := ih same.symm
      exact ⟨middle, .reserve first, rest⟩
  | rest passed run ih =>
    rcases List.append_eq_cons_iff.mp whole with ⟨rfl, rfl⟩ | ⟨before, rfl, same⟩
    · exact ⟨_, .done, .rest passed run⟩
    · obtain ⟨middle, first, rest⟩ := ih same.symm
      exact ⟨middle, .rest passed first, rest⟩
  | cutShort stopped run ih =>
    rcases List.append_eq_cons_iff.mp whole with ⟨rfl, rfl⟩ | ⟨before, rfl, same⟩
    · exact ⟨_, .done, .cutShort stopped run⟩
    · obtain ⟨middle, first, rest⟩ := ih same.symm
      exact ⟨middle, .cutShort stopped first, rest⟩
  | send run ih =>
    rcases List.append_eq_cons_iff.mp whole with ⟨rfl, rfl⟩ | ⟨before, rfl, same⟩
    · exact ⟨_, .done, .send run⟩
    · obtain ⟨middle, first, rest⟩ := ih same.symm
      exact ⟨middle, .send first, rest⟩
  | signal run ih =>
    rcases List.append_eq_cons_iff.mp whole with ⟨rfl, rfl⟩ | ⟨before, rfl, same⟩
    · exact ⟨_, .done, .signal run⟩
    · obtain ⟨middle, first, rest⟩ := ih same.symm
      exact ⟨middle, .signal first, rest⟩

/-- Where a wait is cut short the stream is not active, and the write ends. -/
theorem cut_short (run : TimedWrites start ((moment, .rest wait (.error error)) :: record) last) :
    start.state.1.lifecycle.ensureActive = .error error ∧
      last.state.2 = .finished (.error error) ∧
      ∀ exchange ∈ record.map Prod.snd, exchange.isSignal = true := by
  generalize whole : (moment, Exchange.rest wait (.error error)) :: record = exchanges at run
  induction run with
  | pass _ _ ih => exact ih whole
  | cutShort stopped run =>
    cases whole
    exact ⟨stopped, run.writes.quiet⟩
  | done | reserve | rest | send | signal => cases whole

/-- A write asks the limiter for each payload that is due in turn. -/
theorem permitted {start : TimedState} {stream : InputStream}
    (begun : start.state = (stream.proceed payloads).value)
    (active : stream.lifecycle.state = .active) (nonempty : ∀ payload ∈ payloads, payload ≠ [])
    (run : TimedWrites start record last) :
    Permitted payloads (record.map Prod.snd) last.state.2 := by
  have writes := run.writes
  rw [begun] at writes
  have reaches {before : List Exchange} {middle : WriteState}
      (first : Writes (stream.proceed payloads).value before middle) :
      Reaches payloads before middle.2 :=
    first.reaches nonempty [] (reaches_start stream payloads)
  constructor
  · intro before length answer after split
    obtain ⟨middle, first, rest⟩ := (split ▸ writes).split
    have place := reaches first
    cases rest with
    | reserve rest =>
      cases place with
      | asking gone split taken granted => exact ⟨gone, _, _, split, rfl, taken, granted⟩
  · intro before offered outcome after split
    exact (split ▸ writes).offers nonempty
  · intro before length error after split
    obtain ⟨middle, first, rest⟩ := (split ▸ writes).split
    cases rest with
    | reserve rest =>
      have ⟨ended, signals⟩ := rest.quiet
      refine ⟨ended, ?_, signals⟩
      rw [split, List.append_cons, takenBytes_signals signals]
      exact takenBytes_concat rfl before
  · intro before wait error after split
    obtain ⟨first, rest, rfl, rfl, others⟩ := List.map_eq_append_iff.mp split
    obtain ⟨⟨moment, _⟩, later, rfl, rfl, rfl⟩ := List.map_eq_cons_iff.mp others
    obtain ⟨middle, earlier, run⟩ := run.split
    have ⟨stopped, ended, signals⟩ := run.cut_short
    have inactive : middle.state.1.lifecycle.state ≠ .active := by
      intro active
      rw [(Lifecycle.ensureActive_eq_ok _).mpr active] at stopped
      cases stopped
    rw [Lifecycle.ensureActive_eq_error inactive] at stopped
    cases stopped
    refine ⟨ended, (ActivationState.interruption_cases _).symm, ?_, signals⟩
    apply earlier.writes.stopped_by_signal _ inactive
    rwa [begun, proceed_lifecycle]
  · intro succeeded
    have place := reaches writes
    rw [succeeded] at place
    cases place with
    | written _ granted => exact granted

theorem permitted_refused {stream : InputStream}
    (refused : start.state = (stream, .finished (.error error)))
    (run : TimedWrites start record last) :
    Permitted [] (record.map Prod.snd) last.state.2 := by
  have writes := run.writes
  rw [refused] at writes
  have ⟨ended, signals⟩ := writes.quiet
  have only {before after : List Exchange} {exchange : Exchange}
      (split : record.map Prod.snd = before ++ exchange :: after) : exchange.isSignal = true := by
    apply signals
    rw [split]
    exact List.mem_append_right _ (.head _)
  constructor
  · intro before length answer after split
    exact nomatch only split
  · intro before offered outcome after split
    exact nomatch only split
  · intro before length error after split
    exact nomatch only split
  · intro before wait error after split
    exact nomatch only split
  · intro succeeded
    rw [ended] at succeeded
    cases succeeded

end TimedWrites

/-- The earliest moment to ask the limiter, after one more exchange. A wait that is cut short leaves
nothing to wait for. -/
def earliestAfter (earliest : Instant) : Instant × Exchange → Instant
  | (moment, .reserve _ (.ok wait)) => moment + wait.nanoseconds
  | (_, .rest _ (.error _)) => 0
  | _ => earliest

/-- Exchanges that do not ask the limiter before the earliest moment. -/
def Patient : Instant → TimedExchanges → Prop
  | _, [] => True
  | earliest, entry :: record =>
    (entry.2.isReserve = true → earliest ≤ entry.1) ∧ Patient (earliestAfter earliest entry) record

theorem patient_append (first second : TimedExchanges) :
    Patient earliest (first ++ second) ↔
      Patient earliest first ∧ Patient (first.foldl earliestAfter earliest) second := by
  induction first generalizing earliest with
  | nil => exact (true_and _).symm ▸ Iff.rfl
  | cons entry first ih =>
    rw [List.cons_append, Patient, Patient, ih, and_assoc]
    rfl

/-- A write that waits is to ask when its wait is over; any other may ask at once. -/
def Awaits (earliest : Instant) (timed : TimedState) : Prop :=
  match timed.state.2 with
  | .waiting (.resting wait _ _) => earliest ≤ timed.asked + wait.nanoseconds
  | _ => earliest ≤ timed.now

section Awaits

variable {earliest asked now : Instant} (due : earliest ≤ now)
include due

theorem proceed_awaits (stream : InputStream) (later : List Bytes) :
    Awaits earliest ⟨asked, now, (stream.proceed later).value⟩ := by
  cases later <;> exact due

theorem offer_awaits (stream : InputStream) (payload : Bytes) (sent : Nat) (later : List Bytes) :
    Awaits earliest ⟨asked, now, (stream.offer payload sent later).value⟩ := by
  rw [offer_value]
  split
  · exact due
  · exact proceed_awaits due stream later

theorem delivered_awaits (stream : InputStream) (payload : Bytes) (sent : Nat)
    (later : List Bytes) (outcome : Except StreamError Nat) :
    Awaits earliest ⟨asked, now, (stream.delivered payload sent later outcome).value⟩ := by
  cases outcome with
  | error error => exact due
  | ok accepted =>
    rcases Nat.eq_zero_or_pos accepted with rfl | some
    · exact due
    · rw [delivered_offer stream payload sent later some]
      exact offer_awaits due stream payload _ later

theorem granted_awaits (stream : InputStream) (payload : Bytes) (later : List Bytes)
    (length : Nat) (answer : Except RateError Duration) :
    Awaits (earliestAfter earliest (now, .reserve length answer))
      ⟨now, now, (stream.granted payload later answer).value⟩ := by
  cases answer with
  | error error => exact due
  | ok wait =>
    by_cases free : wait.isZero = true
    · have none : wait.nanoseconds = 0 := by simpa [Duration.isZero] using free
      have at_once : now + wait.nanoseconds ≤ now := by rw [none]; exact Nat.le_refl _
      simp only [granted, if_pos free]
      exact offer_awaits at_once stream payload 0 later
    · simp only [granted, if_neg free]
      exact Nat.le_refl _

end Awaits

theorem TimedWrites.patient (run : TimedWrites start record last) (awaits : Awaits earliest start) :
    Patient earliest record ∧ Awaits (record.foldl earliestAfter earliest) last := by
  induction run generalizing earliest with
  | done => exact ⟨trivial, awaits⟩
  | @pass now later asked state record last forward _ ih =>
    apply ih
    obtain ⟨stream, progress⟩ := state
    match progress, awaits with
    | .waiting (.resting ..), awaits => exact awaits
    | .waiting (.asking ..), awaits => exact Nat.le_trans awaits forward
    | .waiting (.sending ..), awaits => exact Nat.le_trans awaits forward
    | .finished _, awaits => exact Nat.le_trans awaits forward
  | reserve _ ih =>
    refine (ih ?_).imp_left (.intro fun _ => awaits)
    exact granted_awaits awaits _ _ _ _ _
  | rest passed _ ih => exact (ih (Nat.le_trans awaits passed)).imp_left (.intro nofun)
  | cutShort _ _ ih => exact (ih (Nat.zero_le _)).imp_left (.intro nofun)
  | send _ ih => exact (ih (delivered_awaits awaits _ _ _ _ _)).imp_left (.intro nofun)
  | signal _ ih => exact (ih awaits).imp_left (.intro nofun)

/-- Exchanges in which the limiter is not asked again before the wait that it asked for, unless
something in between excuses it. -/
def Spaced (excuses : Exchange → Bool) (record : TimedExchanges) : Prop :=
  ∀ before moment length wait between later next answer after,
    record = before ++ (moment, .reserve length (.ok wait)) :: between ++
      (later, .reserve next answer) :: after →
    (∀ entry ∈ between, entry.2.isReserve = false) →
    moment + wait.nanoseconds ≤ later ∨ ∃ entry ∈ between, excuses entry.2 = true

theorem foldl_earliestAfter {between : TimedExchanges}
    (unasked : ∀ entry ∈ between, entry.2.isReserve = false)
    (uncut : ∀ entry ∈ between, entry.2.isCutShort = false) :
    between.foldl earliestAfter earliest = earliest := by
  induction between with
  | nil => rfl
  | cons entry between ih =>
    have ⟨notAsked, unasked⟩ := List.forall_mem_cons.mp unasked
    have ⟨notCut, uncut⟩ := List.forall_mem_cons.mp uncut
    have same : earliestAfter earliest entry = earliest := by
      obtain ⟨moment, exchange⟩ := entry
      cases exchange with
      | reserve length answer => cases notAsked
      | rest wait outcome =>
        cases outcome with
        | error error => cases notCut
        | ok _ => rfl
      | send | signal => rfl
    rw [List.foldl_cons, same]
    exact ih unasked uncut

/-- Whoever is patient waits as long as the limiter asked for, unless a wait is cut short. -/
theorem Patient.spaced (patient : Patient earliest record) :
    Spaced Exchange.isCutShort record := by
  intro before moment length wait between later next answer after split unasked
  by_cases cut : ∃ entry ∈ between, entry.2.isCutShort = true
  · exact .inr cut
  · left
    have uncut : ∀ entry ∈ between, entry.2.isCutShort = false := by
      intro entry member
      exact Bool.eq_false_iff.mpr fun short => cut ⟨entry, member, short⟩
    rw [split, List.append_assoc, patient_append, List.cons_append, Patient, patient_append]
      at patient
    obtain ⟨_, _, _, waited, _⟩ := patient
    rw [foldl_earliestAfter unasked uncut] at waited
    exact waited rfl

/-- A write in a run of writes: where it started, its frame, its exchanges and where it is. -/
structure TimedAttempt where
  origin : InputStream
  frame : Bytes
  record : TimedExchanges
  progress : Progress WritePoint (Except StreamError Unit)

def TimedAttempt.exchanges (attempt : TimedAttempt) : List Exchange := attempt.record.map Prod.snd

/-- Writes one after another, as time passes; the last one may be under way. In between the stream
may be stopped, activated, and given another time limit. -/
inductive Proceeds : Instant → InputStream → List TimedAttempt → Prop where
  | done : Proceeds now stream []
  | pass : now ≤ later → Proceeds later stream attempts → Proceeds now stream attempts
  | signal : Proceeds now (stream.signal request).value attempts → Proceeds now stream attempts
  | limit (timeout : Duration) : Proceeds now { stream with timeout } attempts →
      Proceeds now stream attempts
  | activate {batchSize : UInt16} {resume : Bool} {reached : Logged InputStream} :
      stream.completeActivation batchSize resume = .ok reached →
      Proceeds now reached.value attempts → Proceeds now stream attempts
  | start : TimedWrites ⟨now, now, (stream.beginWrite frame).value⟩ record last →
      Proceeds now stream [⟨stream, frame, record, last.state.2⟩]
  | write :
      TimedWrites ⟨now, now, (stream.beginWrite frame).value⟩ record
        ⟨asked, later, (next, .finished result)⟩ →
      Proceeds later next attempts →
      Proceeds now stream (⟨stream, frame, record, .finished result⟩ :: attempts)

theorem beginWrite_permitted {stream : InputStream}
    (run : TimedWrites ⟨asked, now, (stream.beginWrite frame).value⟩ record last) :
    Permitted (stream.due frame) (record.map Prod.snd) last.state.2 := by
  by_cases accepted : frame.length = stream.layer.frameSize ∧ stream.lifecycle.state = .active
  · obtain ⟨exact, active⟩ := accepted
    have still : stream.drawn.lifecycle.state = .active := by
      obtain ⟨syncIndex, same⟩ := stream.drawn_changes
      rwa [same]
    exact run.permitted (beginWrite_due active exact) still (stream.due_nonempty frame)
  · rcases stream.beginWrite_cases frame with ⟨error, refused⟩ | both
    · rw [due, if_neg (fun all => accepted ⟨all.1, all.2.1⟩)]
      exact run.permitted_refused refused
    · exact absurd both accepted

theorem beginWrite_awaits (now : Instant) (stream : InputStream) (frame : Bytes)
    (due : earliest ≤ now) : Awaits earliest ⟨asked, now, (stream.beginWrite frame).value⟩ := by
  rcases stream.beginWrite_cases frame with ⟨error, refused⟩ | ⟨exact, active⟩
  · rw [refused]
    exact due
  · rw [beginWrite_drawn active exact]
    exact proceed_awaits due _ _

theorem Proceeds.permitted (run : Proceeds now stream attempts) :
    ∀ attempt ∈ attempts,
      Permitted (attempt.origin.due attempt.frame) attempt.exchanges attempt.progress := by
  induction run with
  | done => exact fun _ member => absurd member List.not_mem_nil
  | pass _ _ ih => exact ih
  | signal _ ih => exact ih
  | limit _ _ ih => exact ih
  | activate _ _ ih => exact ih
  | start written => exact List.forall_mem_singleton.mpr (beginWrite_permitted written)
  | write written _ ih => exact List.forall_mem_cons.mpr ⟨beginWrite_permitted written, ih⟩

theorem Proceeds.patient (run : Proceeds now stream attempts) (due : earliest ≤ now) :
    Patient earliest (attempts.flatMap TimedAttempt.record) := by
  induction run generalizing earliest with
  | done => trivial
  | pass forward _ ih => exact ih (Nat.le_trans due forward)
  | signal _ ih => exact ih due
  | limit _ _ ih => exact ih due
  | activate _ _ ih => exact ih due
  | start written =>
    rw [List.flatMap_cons, List.flatMap_nil, List.append_nil]
    exact (written.patient (beginWrite_awaits _ _ _ due)).1
  | write written _ ih =>
    have ⟨here, after⟩ := written.patient (beginWrite_awaits _ _ _ due)
    rw [List.flatMap_cons, patient_append]
    exact ⟨here, ih after⟩

/-- In every run of writes each payload is let go before it leaves: the limiter grants its exact
length once, for all of its parts, and a wait is waited out unless the stream is stopped. What a
session writes is written so. -/
theorem writes_wait_for_grants :
    (∀ now stream attempts, Proceeds now stream attempts →
      (∀ attempt ∈ attempts,
        Permitted (attempt.origin.due attempt.frame) attempt.exchanges attempt.progress) ∧
      Spaced Exchange.isCutShort (attempts.flatMap TimedAttempt.record)) ∧
    ∀ (session : Session) side now frame schedule result, session.input? = some side →
      (session.write now frame schedule).result = some result →
      ∃ record outcome,
        Proceeds (instantOf now) side.stream [⟨side.stream, frame, record, .finished outcome⟩] ∧
          result = outcome.map fun _ => .done := by
  constructor
  · intro now stream attempts run
    exact ⟨run.permitted, (run.patient (Nat.zero_le now)).spaced⟩
  · intro session side now frame schedule result present found
    obtain ⟨_, record, _, outcome, _, same, written⟩ := Session.write_wroteAt present found
    exact ⟨record, outcome, .write written .done, same⟩

private def quartets : InputStream :=
  let layer : Layer := ⟨"quartets", .hostToDevice, 4, 1⟩
  { layer
    configuration := (InputConfiguration.ofParameters {} layer).toOption.get rfl
    lifecycle := { name := "quartets", isActivated := true }
    timeout := .zero
    batchSize := 1 }

private def abortedRecord : TimedExchanges :=
  [(0, .reserve 4 (.ok ⟨1000000000⟩)), (1000000, .signal .abort),
    (1000000, .rest ⟨1000000000⟩ (.error .aborted))]

private def grantedRecord : TimedExchanges :=
  [(1000000, .reserve 4 (.ok .zero)), (1000000, .send [1, 2, 3, 4] (.ok 4))]

private def abortedAndGranted : List TimedAttempt :=
  [⟨quartets, [1, 2, 3, 4], abortedRecord, .finished (.error .aborted)⟩,
    ⟨quartets, [1, 2, 3, 4], grantedRecord, .finished (.ok ())⟩]

/-- An abort after a millisecond cuts a wait of a second short; the abort is cleared, and the next
write asks again at once. -/
private theorem quartets_proceeds : Proceeds 0 quartets abortedAndGranted := by
  have active : quartets.lifecycle.state = .active := by decide
  have exact : ([1, 2, 3, 4] : Bytes).length = quartets.layer.frameSize := by decide
  have begun : (quartets.beginWrite [1, 2, 3, 4]).value =
      (quartets, .waiting (.asking [1, 2, 3, 4] [])) := by
    rw [beginWrite_due active exact, due_eq_image active exact (by decide)]
    rfl
  have aborted : TimedWrites ⟨0, 0, (quartets.beginWrite [1, 2, 3, 4]).value⟩ abortedRecord
      ⟨0, 1000000, ((quartets.signal .abort).value, .finished (.error .aborted))⟩ := by
    rw [begun]
    exact .reserve (.pass (by decide) (.signal (.cutShort rfl .done)))
  have granted : TimedWrites ⟨1000000, 1000000, (quartets.beginWrite [1, 2, 3, 4]).value⟩
      grantedRecord
      ⟨1000000, 1000000, ({ quartets with frameCounter := 1 }, .finished (.ok ()))⟩ := by
    rw [begun]
    exact .reserve (.send .done)
  have restored : ((quartets.signal .abort).value.signal .clearAbort).value = quartets := rfl
  have second : Proceeds 1000000 ((quartets.signal .abort).value.signal .clearAbort).value
      [⟨quartets, [1, 2, 3, 4], grantedRecord, .finished (.ok ())⟩] := by
    rw [restored]
    exact .write granted .done
  exact .write aborted (.signal second)

theorem writes_wait_for_grants_after_abort :
    Proceeds 0 quartets abortedAndGranted ∧
      (∀ attempt ∈ abortedAndGranted,
        Permitted (attempt.origin.due attempt.frame) attempt.exchanges attempt.progress) ∧
      quartets.due [1, 2, 3, 4] = [[1, 2, 3, 4]] ∧
      Spaced Exchange.isCutShort (abortedRecord ++ grantedRecord) := by
  have ⟨permitted, spaced⟩ :=
    writes_wait_for_grants.1 0 quartets abortedAndGranted quartets_proceeds
  refine ⟨quartets_proceeds, permitted, ?_, spaced⟩
  exact due_eq_image (by decide) (by decide) (by decide)

/-- A wait is not always waited out: an abort cuts it short, and the next write may ask at once. -/
theorem wait_cut_short_by_abort :
    ¬ ∀ now stream attempts, Proceeds now stream attempts →
      Spaced (fun _ => false) (attempts.flatMap TimedAttempt.record) := by
  intro spaced
  have unasked : ∀ entry ∈ abortedRecord.tail, entry.2.isReserve = false := by decide
  rcases spaced 0 quartets abortedAndGranted quartets_proceeds [] 0 4 ⟨1000000000⟩
      abortedRecord.tail 1000000 4 (.ok .zero) grantedRecord.tail rfl unasked with waited | excused
  · exact absurd waited (by decide)
  · obtain ⟨_, _, impossible⟩ := excused
    cases impossible

end InputStream

end FrameStream
