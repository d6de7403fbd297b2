import FrameStream.Proofs.Cadence

/-!
Writes as exchanges with the limiter, the transport and other tasks. Nothing is assumed about
these: an exchange records what the write was told, and the datagrams on the wire are read off the
record.
-/

namespace FrameStream

/-- One thing that happens to a write that waits. -/
inductive Exchange where
  /-- The limiter is asked for a payload of this length. -/
  | reserve (length : Nat) (answer : Except RateError Duration)
  | rest (wait : Duration) (outcome : Except StreamError Unit)
  /-- The transport is offered these bytes, and says how many of them it took. -/
  | send (offered : Bytes) (outcome : Except StreamError Nat)
  /-- Another task acts through the stream's handle. -/
  | signal (signal : Lifecycle.Signal)

namespace Exchange

/-- The datagram that an exchange puts on the wire. -/
def datagram? : Exchange → Option Bytes
  | .send offered (.ok accepted) => some (offered.take accepted)
  | _ => none

/-- A transport that accepts whole payloads either fails or takes all it is offered. -/
def TakesWhole : Exchange → Prop
  | .send offered (.ok accepted) => offered.length ≤ accepted
  | _ => True

end Exchange

def datagrams (exchanges : List Exchange) : List Bytes := exchanges.filterMap Exchange.datagram?

/-- The payloads a write still has to send, the first of them without its part that was sent. -/
def WritePoint.unsent : WritePoint → List Bytes
  | .asking payload later => payload :: later
  | .resting _ payload later => payload :: later
  | .sending payload sent later => payload.drop sent :: later

namespace InputStream

abbrev WriteState := InputStream × Progress WritePoint (Except StreamError Unit)

/-- What a write and its exchanges make of a state, in any number of exchanges. -/
inductive Writes : WriteState → List Exchange → WriteState → Prop where
  | done : Writes state [] state
  | reserve :
      Writes (stream.granted payload later answer).value exchanges last →
      Writes (stream, .waiting (.asking payload later))
        (.reserve payload.length answer :: exchanges) last
  | rest :
      Writes (stream.rested payload later outcome).value exchanges last →
      Writes (stream, .waiting (.resting wait payload later)) (.rest wait outcome :: exchanges) last
  | send :
      Writes (stream.delivered payload sent later outcome).value exchanges last →
      Writes (stream, .waiting (.sending payload sent later))
        (.send (payload.drop sent) outcome :: exchanges) last
  | signal :
      Writes ((stream.signal request).value, progress) exchanges last →
      Writes (stream, progress) (.signal request :: exchanges) last

/-- Writes of several frames one after another, all of which succeed, each with its exchanges. -/
inductive WritesAll : InputStream → List Bytes → List (List Exchange) → InputStream → Prop where
  | done : WritesAll stream [] [] stream
  | signal :
      WritesAll (stream.signal request).value frames traces last →
      WritesAll stream frames traces last
  | write :
      Writes (stream.beginWrite frame).value exchanges (next, .finished (.ok ())) →
      WritesAll next frames traces last →
      WritesAll stream (frame :: frames) (exchanges :: traces) last

/-- A stream whose counters say that some frames were sent, and others begun. -/
structure Counts (configuration : InputConfiguration) (layer : Layer) (sent begun : Nat)
    (stream : InputStream) : Prop where
  configuration_eq : stream.configuration = configuration
  layer_eq : stream.layer = layer
  counted : stream = stream.counting sent begun

variable {configuration : InputConfiguration} {layer : Layer} {stream : InputStream}
  {sent begun position : Nat}

theorem Counts.signal (counts : Counts configuration layer sent begun stream)
    (request : Lifecycle.Signal) :
    Counts configuration layer sent begun (stream.signal request).value where
  configuration_eq := counts.configuration_eq
  layer_eq := counts.layer_eq
  counted := congrArg (fun stream => (stream.signal request).value) counts.counted

/-- Where a write of the frame at a position may stand when the given payloads are left: none of
them is empty, and the frame counts once there are none. A failed write promises nothing. -/
def Standing (configuration : InputConfiguration) (layer : Layer) (position : Nat)
    (payloads : List Bytes) : WriteState → Prop
  | (stream, .waiting point) =>
    Counts configuration layer position (position + 1) stream ∧
      point.unsent = payloads ∧ ∀ payload ∈ payloads, payload ≠ []
  | (stream, .finished (.ok _)) =>
    Counts configuration layer (position + 1) (position + 1) stream ∧ payloads = []
  | (_, .finished (.error _)) => True

section Steps

variable {payload : Bytes} {later : List Bytes} {taken : Nat}
  (counts : Counts configuration layer position (position + 1) stream)
include counts

theorem proceed_standing (nonempty : ∀ payload ∈ later, payload ≠ []) :
    Standing configuration layer position later (stream.proceed later).value := by
  cases later with
  | nil =>
    rw [counts.counted, proceed_counting]
    exact ⟨⟨counts.configuration_eq, counts.layer_eq, rfl⟩, rfl⟩
  | cons payload later => exact ⟨counts, rfl, nonempty⟩

theorem offer_standing (payload : Bytes) (taken : Nat)
    (nonempty : ∀ payload ∈ later, payload ≠ []) :
    Standing configuration layer position
      (if taken < payload.length then payload.drop taken :: later else later)
      (stream.offer payload taken later).value := by
  unfold offer
  by_cases more : taken < payload.length
  · have left : payload.drop taken ≠ [] := List.ne_nil_of_length_pos (by simp; omega)
    rw [if_pos more, if_pos more]
    exact ⟨counts, rfl, List.forall_mem_cons.mpr ⟨left, nonempty⟩⟩
  · rw [if_neg more, if_neg more]
    exact proceed_standing counts nonempty

theorem granted_standing (nonempty : ∀ unsent ∈ payload :: later, unsent ≠ [])
    (answer : Except RateError Duration) :
    Standing configuration layer position (payload :: later)
      (stream.granted payload later answer).value := by
  cases answer with
  | error error => trivial
  | ok wait =>
    have ⟨first, rest⟩ := List.forall_mem_cons.mp nonempty
    by_cases free : wait.isZero = true
    · have offered := offer_standing counts payload 0 rest
      rw [if_pos (List.length_pos_iff.mpr first), List.drop_zero] at offered
      simpa only [granted, if_pos free] using offered
    · simp only [granted, if_neg free]
      exact ⟨counts, rfl, nonempty⟩

theorem rested_standing (nonempty : ∀ unsent ∈ payload :: later, unsent ≠ [])
    (outcome : Except StreamError Unit) :
    Standing configuration layer position (payload :: later)
      (stream.rested payload later outcome).value := by
  cases outcome with
  | error error => trivial
  | ok _ => exact ⟨counts, rfl, nonempty⟩

theorem delivered_standing (nonempty : ∀ unsent ∈ payload.drop taken :: later, unsent ≠ [])
    {accepted : Nat} (whole : (payload.drop taken).length ≤ accepted) :
    Standing configuration layer position later
      (stream.delivered payload taken later (.ok accepted)).value := by
  have ⟨first, rest⟩ := List.forall_mem_cons.mp nonempty
  have some := List.length_pos_iff.mpr first
  rw [List.length_drop] at whole some
  obtain ⟨accepted, rfl⟩ : ∃ fewer, accepted = fewer + 1 := ⟨accepted - 1, by omega⟩
  have reached : taken + min (accepted + 1) (payload.length - taken) = payload.length := by omega
  have offered := offer_standing counts payload payload.length rest
  rw [if_neg (Nat.lt_irrefl _)] at offered
  simp only [delivered, reached, if_neg (Nat.not_lt.mpr whole)]
  exact offered

end Steps

theorem Standing.signal
    (standing : Standing configuration layer position payloads (stream, progress))
    (request : Lifecycle.Signal) :
    Standing configuration layer position payloads ((stream.signal request).value, progress) := by
  match progress, standing with
  | .waiting _, ⟨counts, rest⟩ => exact ⟨counts.signal request, rest⟩
  | .finished (.ok _), ⟨counts, rest⟩ => exact ⟨counts.signal request, rest⟩
  | .finished (.error _), _ => trivial

theorem Writes.failed (run : Writes (stream, .finished (.error error)) exchanges last) :
    last.2 = .finished (.error error) := by
  generalize start : (stream, Progress.finished (Except.error error)) = state at run
  induction run generalizing stream with
  | done => exact start ▸ rfl
  | signal run ih =>
    cases start
    exact ih rfl
  | reserve | rest | send => cases start

/-- Over a transport that accepts whole payloads a write that succeeds has sent exactly the
payloads that were left, each as one datagram. -/
theorem Writes.datagrams_eq (run : Writes state exchanges last)
    (standing : Standing configuration layer position payloads state)
    (whole : ∀ exchange ∈ exchanges, exchange.TakesWhole)
    (succeeded : last.2 = .finished (.ok ())) :
    datagrams exchanges = payloads ∧
      Counts configuration layer (position + 1) (position + 1) last.1 := by
  induction run generalizing payloads with
  | @done state =>
    obtain ⟨stream, progress⟩ := state
    cases succeeded
    exact ⟨standing.2.symm, standing.1⟩
  | reserve run ih =>
    obtain ⟨counts, rfl, nonempty⟩ := standing
    exact ih (granted_standing counts nonempty _) (List.forall_mem_cons.mp whole).2 succeeded
  | rest run ih =>
    obtain ⟨counts, rfl, nonempty⟩ := standing
    exact ih (rested_standing counts nonempty _) (List.forall_mem_cons.mp whole).2 succeeded
  | @send exchanges last stream payload taken later outcome run ih =>
    obtain ⟨counts, rfl, nonempty⟩ := standing
    have ⟨here, after⟩ := List.forall_mem_cons.mp whole
    cases outcome with
    | error error =>
      rw [Writes.failed run] at succeeded
      cases succeeded
    | ok accepted =>
      have ⟨remaining, counted⟩ := ih (delivered_standing counts nonempty here) after succeeded
      refine ⟨?_, counted⟩
      change (payload.drop taken).take accepted :: datagrams exchanges = payload.drop taken :: later
      rw [remaining, List.take_of_length_le here]
  | signal run ih =>
    exact ih (standing.signal _) (List.forall_mem_cons.mp whole).2 succeeded

def unhindered (payloads : List Bytes) : List Exchange :=
  payloads.flatMap fun payload =>
    [.reserve payload.length (.ok .zero), .send payload (.ok payload.length)]

theorem unhindered_takesWhole (member : exchange ∈ unhindered payloads) : exchange.TakesWhole := by
  obtain ⟨payload, _, among⟩ := List.mem_flatMap.mp member
  rcases List.mem_cons.mp among with rfl | second
  · trivial
  · rw [List.mem_singleton.mp second]
    exact Nat.le_refl _

theorem granted_zero (stream : InputStream) (nonempty : payload ≠ []) :
    (stream.granted payload later (.ok .zero)).value =
      (stream, .waiting (.sending payload 0 later)) := by
  have longer := List.length_pos_iff.mpr nonempty
  simp [granted, Duration.isZero, Duration.zero, offer, longer]

theorem delivered_length (stream : InputStream) (nonempty : payload ≠ []) :
    (stream.delivered payload 0 later (.ok payload.length)).value =
      (stream.proceed later).value := by
  obtain ⟨first, rest, rfl⟩ := List.exists_cons_of_ne_nil nonempty
  simp [delivered, offer]

/-- Where nothing gets in its way a write succeeds. -/
theorem writes_unhindered (stream : InputStream) (nonempty : ∀ payload ∈ payloads, payload ≠ []) :
    Writes (stream.proceed payloads).value (unhindered payloads)
      ({ stream with frameCounter := stream.frameCounter + 1 }, .finished (.ok ())) := by
  induction payloads with
  | nil => exact .done
  | cons payload later ih =>
    have ⟨first, rest⟩ := List.forall_mem_cons.mp nonempty
    refine .reserve ?_
    rw [granted_zero stream first]
    refine .send ?_
    rw [delivered_length stream first]
    exact ih rest

end InputStream

end FrameStream
