import FrameStream.Proofs.Payloads
import FrameStream.Proofs.Writes

namespace FrameStream

def Exchange.isReserve : Exchange → Bool
  | .reserve .. => true
  | _ => false

/-- A write that was tried: its frame, its exchanges and how it ended. -/
structure Attempt where
  frame : Bytes
  exchanges : List Exchange
  result : Except StreamError Unit

namespace Attempt

def datagrams (attempt : Attempt) : List Bytes := FrameStream.datagrams attempt.exchanges

/-- Whether the write started. One that is refused fails without asking the limiter. -/
def isStarted (attempt : Attempt) : Bool :=
  attempt.result.isOk || attempt.exchanges.any Exchange.isReserve

/-- Whether nothing of the frame went out. -/
def isSilent (attempt : Attempt) : Bool := attempt.datagrams.isEmpty

end Attempt

namespace InputStream

/-- Writes that are tried one after another. In between, the stream may be stopped and made active
again with what it has counted. -/
inductive Tries : InputStream → List Attempt → InputStream → Prop where
  | done : Tries stream [] stream
  | signal : Tries (stream.signal request).value attempts last → Tries stream attempts last
  | resume {batchSize : UInt16} : stream.completeActivation batchSize true = .ok activated →
      Tries activated.value attempts last → Tries stream attempts last
  | write : Writes (stream.beginWrite frame).value exchanges (next, .finished result) →
      Tries next attempts last → Tries stream (⟨frame, exchanges, result⟩ :: attempts) last

/-- Where a write may stand, or how it may have ended, when these payloads of its frame are left.
The stream has changed in its lifecycle at most, until the frame is counted. -/
inductive Leaves (origin : InputStream) : List Bytes → WriteState → Prop where
  | waiting (lifecycle : Lifecycle) : point.unsent = payloads →
      Leaves origin payloads ({ origin with lifecycle }, .waiting point)
  | written (lifecycle : Lifecycle) :
      Leaves origin []
        ({ origin with lifecycle, frameCounter := origin.frameCounter + 1 }, .finished (.ok ()))
  | failed (lifecycle : Lifecycle) :
      Leaves origin payloads ({ origin with lifecycle }, .finished (.error error))

variable {origin stream : InputStream} {payload : Bytes} {later payloads : List Bytes}

theorem Leaves.of_lifecycle {lifecycle : Lifecycle}
    (leaves : Leaves { origin with lifecycle } payloads state) : Leaves origin payloads state := by
  cases leaves with
  | waiting current unsent => exact .waiting current unsent
  | written current => exact .written current
  | failed current => exact .failed current

theorem Leaves.signal (leaves : Leaves origin payloads (stream, progress))
    (request : Lifecycle.Signal) :
    Leaves origin payloads ((stream.signal request).value, progress) := by
  cases leaves with
  | waiting _ unsent => exact .waiting _ unsent
  | written _ => exact .written _
  | failed _ => exact .failed _

section Steps

theorem proceed_leaves (stream : InputStream) (later : List Bytes) :
    Leaves stream later (stream.proceed later).value := by
  cases later with
  | nil => exact .written stream.lifecycle
  | cons payload later => exact .waiting stream.lifecycle rfl

theorem offer_value (stream : InputStream) (payload : Bytes) (taken : Nat)
    (later : List Bytes) :
    (stream.offer payload taken later).value =
      if taken < payload.length then (stream, .waiting (.sending payload taken later))
      else (stream.proceed later).value := by
  unfold offer
  split <;> rfl

theorem offer_leaves (stream : InputStream) (payload : Bytes) (taken : Nat) (later : List Bytes) :
    Leaves stream (if taken < payload.length then payload.drop taken :: later else later)
      (stream.offer payload taken later).value := by
  unfold offer
  by_cases more : taken < payload.length
  · rw [if_pos more, if_pos more]
    exact .waiting stream.lifecycle rfl
  · rw [if_neg more, if_neg more]
    exact proceed_leaves stream later

theorem granted_leaves (stream : InputStream) (nonempty : payload ≠ []) (later : List Bytes)
    (answer : Except RateError Duration) :
    Leaves stream (payload :: later) (stream.granted payload later answer).value := by
  cases answer with
  | error error => exact .failed stream.lifecycle
  | ok wait =>
    by_cases free : wait.isZero = true
    · have offered := offer_leaves stream payload 0 later
      rw [if_pos (List.length_pos_iff.mpr nonempty), List.drop_zero] at offered
      simpa only [granted, if_pos free] using offered
    · simp only [granted, if_neg free]
      exact .waiting stream.lifecycle rfl

theorem rested_leaves (stream : InputStream) (payload : Bytes) (later : List Bytes)
    (outcome : Except StreamError Unit) :
    Leaves stream (payload :: later) (stream.rested payload later outcome).value := by
  cases outcome with
  | error error => exact .failed stream.lifecycle
  | ok _ => exact .waiting stream.lifecycle rfl

theorem delivered_offer (stream : InputStream) (payload : Bytes) (taken : Nat)
    (later : List Bytes) (positive : 0 < accepted) :
    (stream.delivered payload taken later (.ok accepted)).value =
      (stream.offer payload (taken + min accepted (payload.length - taken)) later).value := by
  obtain ⟨fewer, rfl⟩ := Nat.exists_eq_succ_of_ne_zero (Nat.pos_iff_ne_zero.mp positive)
  simp only [delivered]
  split <;> rfl

/-- What a transport does not take of a payload is left, if it takes anything. -/
theorem delivered_part_leaves (stream : InputStream) (payload : Bytes) (taken : Nat)
    (later : List Bytes) (positive : 0 < accepted) :
    Leaves stream
      (if accepted < (payload.drop taken).length then (payload.drop taken).drop accepted :: later
        else later)
      (stream.delivered payload taken later (.ok accepted)).value := by
  rw [delivered_offer stream payload taken later positive]
  have offered := offer_leaves stream payload (taken + min accepted (payload.length - taken)) later
  rw [List.length_drop]
  by_cases more : accepted < payload.length - taken
  · rw [Nat.min_eq_left (Nat.le_of_lt more)] at offered ⊢
    rw [if_pos more, List.drop_drop]
    rwa [if_pos (by omega)] at offered
  · rw [if_neg more]
    rwa [if_neg (by omega)] at offered

theorem delivered_leaves (stream : InputStream) {taken accepted : Nat}
    (nonempty : payload.drop taken ≠ []) (whole : (payload.drop taken).length ≤ accepted)
    (later : List Bytes) :
    Leaves stream later (stream.delivered payload taken later (.ok accepted)).value := by
  have some := List.length_pos_iff.mpr nonempty
  have leaves := delivered_part_leaves stream payload taken later (Nat.lt_of_lt_of_le some whole)
  rwa [if_neg (Nat.not_lt.mpr whole)] at leaves

end Steps

/-- A write sends its payloads from the first on, each as one datagram, as far as it gets. -/
theorem Writes.leaves (run : Writes state exchanges last) (leaves : Leaves origin payloads state)
    (nonempty : ∀ payload ∈ payloads, payload ≠ [])
    (whole : ∀ exchange ∈ exchanges, exchange.TakesWhole) :
    ∃ left, payloads = datagrams exchanges ++ left ∧ Leaves origin left last := by
  induction run generalizing payloads with
  | done => exact ⟨payloads, rfl, leaves⟩
  | reserve run ih =>
    have ⟨_, whole⟩ := List.forall_mem_cons.mp whole
    cases leaves with
    | waiting lifecycle unsent =>
      subst unsent
      have ⟨first, _⟩ := List.forall_mem_cons.mp nonempty
      exact ih (granted_leaves _ first _ _).of_lifecycle nonempty whole
  | rest run ih =>
    have ⟨_, whole⟩ := List.forall_mem_cons.mp whole
    cases leaves with
    | waiting lifecycle unsent =>
      subst unsent
      exact ih (rested_leaves _ _ _ _).of_lifecycle nonempty whole
  | @send exchanges last stream payload taken later outcome run ih =>
    have ⟨here, after⟩ := List.forall_mem_cons.mp whole
    cases leaves with
    | waiting lifecycle unsent =>
      subst unsent
      have ⟨first, others⟩ := List.forall_mem_cons.mp nonempty
      cases outcome with
      | error error => exact ih (.failed lifecycle) nonempty after
      | ok accepted =>
        obtain ⟨left, split, leaves⟩ :=
          ih (delivered_leaves _ first here later).of_lifecycle others after
        refine ⟨left, ?_, leaves⟩
        change payload.drop taken :: later =
          (payload.drop taken).take accepted :: datagrams exchanges ++ left
        rw [List.take_of_length_le here, split, List.cons_append]
  | signal run ih =>
    have ⟨_, whole⟩ := List.forall_mem_cons.mp whole
    exact ih (leaves.signal _) nonempty whole

theorem Writes.of_finished (run : Writes (stream, .finished result) exchanges last) :
    (∃ lifecycle, last = ({ stream with lifecycle }, .finished result)) ∧
      datagrams exchanges = [] ∧ exchanges.any Exchange.isReserve = false := by
  generalize start : (stream, Progress.finished result) = state at run
  induction run generalizing stream with
  | done => exact ⟨⟨stream.lifecycle, start.symm⟩, rfl, rfl⟩
  | signal run ih =>
    cases start
    obtain ⟨⟨lifecycle, same⟩, silent, unasked⟩ := ih rfl
    exact ⟨⟨lifecycle, same⟩, silent, unasked⟩
  | reserve | rest | send => cases start

theorem Writes.asks
    (run : Writes (stream, .waiting (.asking payload later)) exchanges (next, .finished result)) :
    exchanges.any Exchange.isReserve = true := by
  generalize start : (stream, Progress.waiting (WritePoint.asking payload later)) = state at run
  generalize ending : (next, Progress.finished result) = last at run
  induction run generalizing stream with
  | done =>
    subst ending
    cases start
  | reserve => rfl
  | signal run ih =>
    cases start
    exact ih rfl ending
  | rest | send => cases start

/-- A write that is accepted either asks the limiter or succeeds. -/
theorem Writes.started
    (run : Writes (stream.proceed payloads).value exchanges (next, .finished result)) :
    (Attempt.mk frame exchanges result).isStarted = true := by
  cases payloads with
  | nil =>
    obtain ⟨⟨lifecycle, same⟩, _⟩ := run.of_finished
    cases same
    rfl
  | cons payload later =>
    have asked : exchanges.any Exchange.isReserve = true := run.asks
    simp only [Attempt.isStarted, asked, Bool.or_true]

def drawn (stream : InputStream) : InputStream :=
  if stream.nextMarker?.isSome then
    { stream with syncIndex := SyncMarker.successor stream.syncIndex }
  else stream

theorem drawn_changes (stream : InputStream) :
    ∃ syncIndex, stream.drawn = { stream with syncIndex } := by
  unfold drawn
  split <;> exact ⟨_, rfl⟩

theorem beginWrite_drawn (active : stream.lifecycle.state = .active)
    (exact : frame.length = stream.layer.frameSize) :
    (stream.beginWrite frame).value =
      (stream.drawn.proceed (stream.configuration.payloads stream.nextMarker? frame)).value := by
  have ready := (Lifecycle.ensureActive_eq_ok _).mpr active
  unfold beginWrite drawn
  rw [if_neg (fun other => other exact), ready]
  cases stream.nextMarker? with
  | none => rfl
  | some marker =>
    simp only [Option.isSome_some, if_true]
    split <;> rfl

end InputStream

end FrameStream
