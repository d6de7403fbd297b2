import FrameStream.Proofs.Allowance
import FrameStream.Session.InputSide

namespace FrameStream

/-- What a transport took in one send: when it was offered, when it was taken, and when the send was
over. -/
structure Uptake where
  offered : Instant
  taken : Instant
  finished : Instant
  bytes : Nat

def Uptake.entry (uptake : Uptake) : Instant × Nat := (uptake.taken, uptake.bytes)

/-- How many of the bytes offered a transport can have taken when a send ends like this. One that
fails may have taken some. -/
def Takes (offered : Nat) : Except StreamError Nat → Nat → Prop
  | .ok accepted, bytes => bytes = min accepted offered
  | .error _, bytes => bytes ≤ offered

theorem Takes.le (takes : Takes offered outcome bytes) : bytes ≤ offered := by
  cases outcome with
  | error error => exact takes
  | ok accepted =>
    cases takes
    exact Nat.min_le_right _ _

/-- An input stream with its bucket at some moment. -/
structure PacedStream where
  stream : InputStream
  bucket : TokenBucket ℚ
  now : Instant
  /-- Where the write at hand stands, and since when. -/
  work? : Option (WritePoint × Instant) := none

namespace PacedStream

/-- Goes on as a step of the write says. -/
def follow (paced : PacedStream)
    (state : InputStream × Progress WritePoint (Except StreamError Unit)) : PacedStream :=
  { paced with
    stream := state.1
    work? :=
      match state.2 with
      | .waiting point => some (point, paced.now)
      | .finished _ => none }

/-- One thing that happens to a paced stream, with what its bucket lets go and what a transport
takes. Nothing is assumed about the transport, nor about how long anything takes. -/
inductive Moves (paced : PacedStream) :
    List (Instant × Nat) → List Uptake → PacedStream → Prop where
  | pass : paced.now ≤ later → Moves paced [] [] { paced with now := later }
  | signal (request : Lifecycle.Signal) :
      Moves paced [] [] { paced with stream := (paced.stream.signal request).value }
  | setTimeout (timeout : Duration) :
      Moves paced [] [] { paced with stream := { paced.stream with timeout } }
  | activate {batchSize : UInt16} : paced.work? = none →
      paced.stream.completeActivation batchSize resume = .ok activated →
      Moves paced [] [] { paced with stream := activated.value }
  | write (frame : Bytes) : paced.work? = none →
      Moves paced [] [] (paced.follow (paced.stream.beginWrite frame).value)
  | ask (payload : Bytes) : paced.work? = some (.asking payload later, since) →
      paced.bucket.reserve paced.now payload.length = (served, answer) →
      Moves paced [(paced.now, TokenBucket.allowed payload.length answer)] []
        ({ paced with bucket := served }.follow (paced.stream.granted payload later answer).value)
  | rest (outcome : Except StreamError Unit) :
      paced.work? = some (.resting wait payload later, since) →
      Moves paced [] [] (paced.follow (paced.stream.rested payload later outcome).value)
  | send (outcome : Except StreamError Nat) :
      paced.work? = some (.sending payload sent later, offered) →
      Takes (payload.length - sent) outcome bytes → offered ≤ taken → taken ≤ paced.now →
      Moves paced [] [⟨offered, taken, paced.now, bytes⟩]
        (paced.follow (paced.stream.delivered payload sent later outcome).value)

/-- What happens to a paced stream in the course of time. -/
inductive Paces : PacedStream → List (Instant × Nat) → List Uptake → PacedStream → Prop where
  | done : Paces paced [] [] paced
  | step : Moves paced grants uptakes next → Paces next more others last →
      Paces paced (grants ++ more) (uptakes ++ others) last

variable {paced next last : PacedStream} {grants : List (Instant × Nat)} {uptakes : List Uptake}
  {start : Instant}

theorem Moves.serves (moves : Moves paced grants uptakes next) :
    TokenBucket.Serves paced.bucket paced.now grants next.bucket next.now := by
  have served (demand : Nat) : TokenBucket.Serves paced.bucket paced.now
      [(paced.now, TokenBucket.allowed demand (paced.bucket.reserve paced.now demand).2)]
      (paced.bucket.reserve paced.now demand).1 paced.now :=
    .reserve demand .done
  cases moves with
  | pass passes => exact .pass passes .done
  | signal | setTimeout | activate | write | rest | send => exact .done
  | ask payload _ asked =>
    have grant := served payload.length
    rw [asked] at grant
    exact grant

theorem Paces.serves (run : Paces paced grants uptakes last) :
    TokenBucket.Serves paced.bucket paced.now grants last.bucket last.now := by
  induction run with
  | done => exact .done
  | step moves _ ih => exact moves.serves.append ih

theorem Moves.paces (moves : Moves paced grants uptakes next) :
    Paces paced grants uptakes next := by
  have run := Paces.step moves .done
  rwa [List.append_nil, List.append_nil] at run

end PacedStream

/-- How many bytes an end of a channel has sent. -/
def Channel.sentBytes (channel : Channel) (side : Side) : Nat :=
  (channel.endpoint side).sent.flatten.length

namespace Port

/-- What a send can come to: no more goes on the wire than is offered and is said to be taken. -/
inductive Sends (channel : Channel) (side : Side) (offered : Nat) :
    Channel × CallOutcome TransportError Nat → Prop where
  | pending : Sends channel side offered (channel, .pending call)
  | failed : Sends channel side offered (channel, .answered (.error error))
  | taken : sent.sentBytes side ≤ channel.sentBytes side + min accepted offered →
      Sends channel side offered (sent, .answered (.ok accepted))

theorem transmit_sends (port : Port) (channel : Channel) (payload : Bytes) (claim? : Option Nat) :
    Sends channel port.side payload.length (port.transmit channel payload claim?) := by
  obtain ⟨side, script⟩ := port
  simp only [transmit, Channel.send]
  by_cases isOpen : (channel.endpoint side.peer).isOpen = true
  · simp only [if_pos isOpen, Except.map]
    refine .taken ?_
    cases claim? <;> cases side <;>
      simp [Channel.sentBytes, Channel.endpoint, Channel.update, Channel.inject, Side.peer]
  · simp only [if_neg isOpen, Except.map]
    exact .failed

theorem send_sends (port : Port) (channel : Channel) (now : Nat) (limit : Duration)
    (payload : Bytes) (call : Call) :
    Sends channel port.side payload.length (port.send channel now limit payload call).2 := by
  cases call with
  | endless => exact .pending
  | due deadline =>
    simp only [send]
    split
    · exact .failed
    · exact .pending
  | unmade =>
    have side : port.takeAct.1.side = port.side := by
      unfold takeAct
      split <;> rfl
    simp only [send]
    rw [← side]
    obtain ⟨next, act⟩ := port.takeAct
    cases act with
    | ordinary => exact transmit_sends next channel payload none
    | accept count =>
      cases count with
      | zero => exact .taken (Nat.le_add_right _ _)
      | succ fewer => exact transmit_sends next channel payload (some (fewer + 1))
    | failure | timeout | closed => exact .failed
    | silence => exact .pending

end Port

namespace InputSide

/-- The side of a paced stream after a look, with what the look found. -/
def Shows (next : PacedStream) (looked : Looked ℚ) : Prop :=
  looked.value.2.1.stream = next.stream ∧
    looked.value.2.1.limiter = .tokenBucket next.bucket ∧
      match looked.value.2.2 with
      | .finished _ => next.work? = none
      | .ready (.writing point _) | .blocked (.writing point _) _ =>
        next.work?.map (·.1) = some point
      | _ => False

theorem follow_shows (paced : PacedStream) (input : InputSide ℚ)
    (owns : input.limiter = .tokenBucket paced.bucket) (shared : Shared)
    (step : InputStream.WriteStep) :
    Shows (paced.follow step.value) (follow shared input step) := by
  obtain ⟨⟨stream, waiting | finished⟩, events⟩ := step
  · exact ⟨rfl, owns, rfl⟩
  · exact ⟨rfl, owns, rfl⟩

/-- A look at a write of a stream that owns a bucket is a move, unless it only finds out how long to
wait; and no more goes on the wire than what is taken in that move. -/
theorem look_paces (input : InputSide ℚ) (owns : input.limiter = .tokenBucket bucket) (now : Nat)
    (shared : Shared) (point : WritePoint) (call : Call) (past : since ≤ instantOf now) :
    ∃ grants uptakes next,
      PacedStream.Paces
        { stream := input.stream, bucket, now := instantOf now, work? := some (point, since) }
        grants uptakes next ∧
      Shows next (input.look now shared (.writing point call)) ∧
      (input.look now shared (.writing point call)).value.1.channel.sentBytes input.port.side ≤
        shared.channel.sentBytes input.port.side + (uptakes.map Uptake.bytes).sum := by
  let paced : PacedStream :=
    { stream := input.stream, bucket, now := instantOf now, work? := some (point, since) }
  cases point with
  | asking payload later =>
    have moves : PacedStream.Moves paced _ _ _ := .ask payload rfl rfl
    refine ⟨_, _, _, moves.paces, ?_, ?_⟩
    · rw [look, owns]
      exact follow_shows _ { input with limiter := .tokenBucket _ } rfl shared _
    · rw [look, owns]
      exact Nat.le_refl _
  | resting wait payload later =>
    have waits : PacedStream.Paces paced [] [] paced := .done
    have rests (outcome : Except StreamError Unit) : PacedStream.Paces paced _ _ _ :=
      (PacedStream.Moves.rest outcome rfl).paces
    rw [look, lookResting]
    split
    · exact ⟨_, _, _, rests (.error _), follow_shows paced input owns shared _, Nat.le_refl _⟩
    · split
      · split
        · exact ⟨_, _, _, rests (.ok ()), follow_shows paced input owns shared _, Nat.le_refl _⟩
        · exact ⟨_, _, _, waits, ⟨rfl, owns, rfl⟩, Nat.le_refl _⟩
      · exact ⟨_, _, _, waits, ⟨rfl, owns, rfl⟩, Nat.le_refl _⟩
  | sending payload sent later =>
    have sends (outcome : Except StreamError Nat) (bytes : Nat)
        (takes : Takes (payload.length - sent) outcome bytes) : PacedStream.Paces paced _ _ _ :=
      (PacedStream.Moves.send outcome rfl takes past (le_refl _)).paces
    rw [look, lookSending]
    split
    · rename_i error _
      have fails := sends (.error error) 0 (Nat.zero_le _)
      exact ⟨_, _, _, fails, follow_shows paced input owns shared _, Nat.le_refl _⟩
    · have wire := input.port.send_sends shared.channel now input.stream.timeout
        (payload.drop sent) call
      rw [List.length_drop] at wire
      generalize input.port.send shared.channel now input.stream.timeout (payload.drop sent) call =
        result at wire ⊢
      obtain ⟨port, channel, outcome⟩ := result
      cases wire with
      | pending => exact ⟨_, _, _, .done, ⟨rfl, owns, rfl⟩, Nat.le_refl _⟩
      | @failed fault =>
        have fails := sends (.error (.ofTransport fault)) 0 (Nat.zero_le _)
        exact ⟨_, _, _, fails, follow_shows paced { input with port } owns _ _, Nat.le_refl _⟩
      | taken within =>
        rename_i accepted
        have takes := sends (.ok accepted) _ rfl
        exact ⟨_, _, _, takes, follow_shows paced { input with port } owns _ _, within⟩

end InputSide
namespace PacedStream

variable {paced next last : PacedStream} {grants : List (Instant × Nat)} {uptakes : List Uptake}
  {start : Instant}

/-- What was let go and may still be taken, under the moment since which it is offered. -/
def owing (paced : PacedStream) : List (Instant × Nat) :=
  match paced.work? with
  | some (.sending payload sent _, since) => [(since, payload.length - sent)]
  | _ => []

section Owing

variable (paced : PacedStream) (stream : InputStream) (payload : Bytes) (later : List Bytes)

theorem owing_proceed : (paced.follow (stream.proceed later).value).owing = [] := by
  cases later with
  | nil | cons => rfl

theorem owing_offer (sent : Nat) (start finish : Instant) :
    bytesWithin start finish (paced.follow (stream.offer payload sent later).value).owing ≤
      bytesWithin start finish [(paced.now, payload.length - sent)] := by
  unfold InputStream.offer
  split
  · exact le_refl _
  · change bytesWithin start finish (paced.follow (stream.proceed later).value).owing ≤ _
    rw [owing_proceed]
    exact Nat.zero_le _

theorem owing_granted (answer : Except RateError Duration) (start finish : Instant) :
    bytesWithin start finish (paced.follow (stream.granted payload later answer).value).owing ≤
      bytesWithin start finish [(paced.now, TokenBucket.allowed payload.length answer)] := by
  cases answer with
  | error error => exact Nat.zero_le _
  | ok wait =>
    simp only [InputStream.granted, TokenBucket.allowed]
    split
    · exact owing_offer paced stream payload later 0 start finish
    · exact Nat.zero_le _

theorem owing_beginWrite (frame : Bytes) :
    (paced.follow (stream.beginWrite frame).value).owing = [] := by
  unfold InputStream.beginWrite
  split
  · rfl
  · split
    · rfl
    · split
      · exact owing_proceed paced stream _
      · split
        · exact owing_proceed paced _ _
        · exact owing_proceed paced _ _

theorem owing_rested (outcome : Except StreamError Unit) :
    (paced.follow (stream.rested payload later outcome).value).owing = [] := by
  cases outcome with
  | error | ok => rfl

end Owing

/-- What a transport took of a payload cannot be taken again. -/
theorem owing_delivered (paced : PacedStream) (stream : InputStream) (payload : Bytes)
    (sent : Nat) (later : List Bytes) (takes : Takes (payload.length - sent) outcome bytes)
    (start finish : Instant) :
    bytesWithin start finish
        (paced.follow (stream.delivered payload sent later outcome).value).owing ≤
      bytesWithin start finish [(paced.now, payload.length - sent - bytes)] := by
  cases outcome with
  | error error => exact Nat.zero_le _
  | ok accepted =>
    cases takes
    cases accepted with
    | zero => exact Nat.zero_le _
    | succ fewer =>
      have offered := owing_offer paced stream payload later
        (sent + min (fewer + 1) (payload.length - sent)) start finish
      rw [Nat.sub_add_eq] at offered
      simp only [InputStream.delivered]
      split <;> exact offered

/-- No send was under way when a span of time began. -/
def Settled (start : Instant) (uptakes : List Uptake) : Prop :=
  ∀ uptake ∈ uptakes, start ≤ uptake.finished → start ≤ uptake.offered

/-- What is taken, and what may still be taken afterwards, was let go before or is let go now. -/
theorem Moves.owing_le (moves : Moves paced grants uptakes next) (settled : Settled start uptakes)
    (finish : Instant) :
    bytesWithin start finish (uptakes.map Uptake.entry) + bytesWithin start finish next.owing ≤
      bytesWithin start finish paced.owing + bytesWithin start finish grants := by
  cases moves with
  | pass | signal | setTimeout | activate =>
    rw [List.map_nil, bytesWithin_nil, Nat.zero_add]
    exact Nat.le_add_right _ _
  | write frame =>
    rw [owing_beginWrite]
    exact Nat.zero_le _
  | rest outcome =>
    rw [owing_rested]
    exact Nat.zero_le _
  | ask =>
    rw [List.map_nil, bytesWithin_nil, Nat.zero_add]
    exact (owing_granted _ _ _ _ _ start finish).trans (Nat.le_add_left _ _)
  | @send offered payload sent later bytes taken outcome work takes before after =>
    have rest := owing_delivered paced paced.stream payload sent later takes start finish
    have whole : paced.owing = [(offered, payload.length - sent)] := by rw [owing, work]
    rw [bytesWithin_cons, bytesWithin_nil, Nat.add_zero] at rest
    simp only [whole, List.map_singleton, Uptake.entry, bytesWithin_cons, bytesWithin_nil,
      Nat.add_zero]
    by_cases within : start ≤ offered ∧ offered ≤ finish
    · rw [if_pos within]
      have taking : (if start ≤ taken ∧ taken ≤ finish then bytes else 0) ≤ bytes := by
        split <;> omega
      have keeping : (if start ≤ paced.now ∧ paced.now ≤ finish then
          payload.length - sent - bytes else 0) ≤ payload.length - sent - bytes := by
        split <;> omega
      have most := takes.le
      omega
    · -- A send that was offered outside of the span is not over within it.
      have outside (time : Instant) (since : offered ≤ time) (upTo : time ≤ paced.now) :
          ¬ (start ≤ time ∧ time ≤ finish) := by
        rintro ⟨from_, until_⟩
        have begun := settled _ (List.mem_singleton_self _) (from_.trans upTo)
        exact within ⟨begun, since.trans until_⟩
      rw [if_neg within, if_neg (outside taken before after)]
      rw [if_neg (outside paced.now (before.trans after) (le_refl _))] at rest
      omega

theorem Paces.owing_le (run : Paces paced grants uptakes last) (settled : Settled start uptakes)
    (finish : Instant) :
    bytesWithin start finish (uptakes.map Uptake.entry) ≤
      bytesWithin start finish paced.owing + bytesWithin start finish grants := by
  induction run with
  | done => exact Nat.zero_le _
  | step moves _ ih =>
    have ⟨here, after⟩ := List.forall_mem_append.mp settled
    have now := moves.owing_le here finish
    have rest := ih after
    rw [List.map_append, bytesWithin_append, bytesWithin_append]
    omega

/-- Whatever is asked of a token bucket and whenever, and whatever is written through a stream that
owns it. The bucket never holds less than nothing or more than its capacity; a zero answer takes
what was asked for from what the bucket holds, and another answer takes nothing. What it has let go
by any moment, and what a transport has taken, is no more than arrived since the bucket was made.
What it lets go in any span of time is no more than the capacity and what arrives meanwhile; so is
what a transport takes, provided that every send is over at the moment it starts. -/
theorem keeps_to_rate {bytesPerSecond : UInt32} {capacity : Nat} {made : Instant}
    {bucket : TokenBucket ℚ}
    (created : TokenBucket.create bytesPerSecond capacity made = .ok bucket) :
    (∀ grants last now, TokenBucket.Serves bucket made grants last now →
      (0 ≤ last.tokens ∧ last.tokens ≤ capacity) ∧
      (∀ demand : Nat, ∃ next answer, last.reserve now demand = (next, answer) ∧
        TokenBucket.Answers last now demand next answer ∧
        next.level now = last.level now - TokenBucket.allowed demand answer ∧
        (capacity < secondsLimit → answer ≠ .error .endlessWait)) ∧
      (∀ finish, (bytesWithin 0 finish grants : ℚ) ≤
        bytesPerSecond.toNat * made.secondsUntil finish) ∧
      ∀ start finish, (bytesWithin start finish grants : ℚ) ≤
        capacity + bytesPerSecond.toNat * start.secondsUntil finish) ∧
    ∀ stream grants uptakes last, Paces { stream, bucket, now := made } grants uptakes last →
      (∀ finish, (bytesWithin 0 finish (uptakes.map Uptake.entry) : ℚ) ≤
        bytesPerSecond.toNat * made.secondsUntil finish) ∧
      ((∀ uptake ∈ uptakes, uptake.finished = uptake.offered) →
        ∀ start finish, (bytesWithin start finish (uptakes.map Uptake.entry) : ℚ) ≤
          capacity + bytesPerSecond.toNat * start.secondsUntil finish) := by
  obtain ⟨metered, fresh, empty⟩ := TokenBucket.create_metered created
  have upTo {grants last now} (run : TokenBucket.Serves bucket made grants last now) (finish) :=
    run.le_arrived metered fresh empty finish
  have within {grants last now} (run : TokenBucket.Serves bucket made grants last now)
      (start finish) :=
    run.le_capacity metered fresh.le start finish
  refine ⟨fun grants last now run => ?_, fun stream grants uptakes last run => ?_⟩
  · have kept := run.metered metered
    refine ⟨⟨kept.tokens_nonneg, kept.tokens_le⟩, fun demand => ?_, fun finish => ?_,
      fun start finish => ?_⟩
    · have answers := last.reserve_answers now demand
      refine ⟨_, _, rfl, answers, answers.level_eq kept, fun small => ?_⟩
      exact answers.ne_endless kept (TokenBucket.one_le_rate created) (by exact_mod_cast small)
    · rw [mul_comm]
      exact upTo run finish
    · rw [mul_comm]
      exact within run start finish
  · have owed (start finish : Instant) (settled : Settled start uptakes) :
        (bytesWithin start finish (uptakes.map Uptake.entry) : ℚ) ≤
          bytesWithin start finish grants := by
      have bound := run.owing_le settled finish
      rw [owing, bytesWithin_nil, Nat.zero_add] at bound
      exact_mod_cast bound
    refine ⟨fun finish => ?_, fun prompt start finish => ?_⟩
    · rw [mul_comm]
      exact (owed 0 finish fun _ _ _ => Nat.zero_le _).trans (upTo run.serves finish)
    · rw [mul_comm]
      have settled : Settled start uptakes := fun uptake member since =>
        since.trans (prompt uptake member).le
      exact (owed start finish settled).trans (within run.serves start finish)

/-- A bucket that gets a byte each nanosecond, and holds up to four. -/
private def dripping (lastRefill : Instant) : TokenBucket ℚ :=
  { rate := 1000000000, capacity := 4, tokens := 0, lastRefill }

private def unmarkedStream (sent : UInt64) : InputStream :=
  { layer := ⟨"edge", .hostToDevice, 4, 1⟩
    configuration := (InputConfiguration.ofParameters { syncEnabled := false }
      ⟨"edge", .hostToDevice, 4, 1⟩).toOption.get rfl
    lifecycle := { name := "edge", isActivated := true }, timeout := .zero, batchSize := 1,
    frameCounter := sent, syncIndex := 0 }

private def droppingAt (now lastRefill : Instant) (work? : Option (WritePoint × Instant)) :
    PacedStream :=
  { stream := unmarkedStream 0, bucket := dripping lastRefill, now, work? }

private theorem beginWrite_unmarked :
    ((unmarkedStream 0).beginWrite [1, 2, 3, 4]).value =
      (unmarkedStream 0, .waiting (.asking [1, 2, 3, 4] [])) := by
  have whole (configuration : InputConfiguration) (payload : Bytes) :
      configuration.payloadsFrom payload [] = [configuration.padded payload] := by
    rw [InputConfiguration.payloadsFrom]
  change (InputStream.proceed _ (InputConfiguration.payloadsFrom _ [1, 2, 3, 4] [])).value = _
  rw [whole]
  rfl

/-- A frame that waits for its grant, and is then sent in two parts: all that arrived in the
meantime is taken at once. -/
theorem keeps_to_rate_of_two_parts :
    ∃ (paced last : PacedStream) (grants : List (Instant × Nat)) (uptakes : List Uptake),
      Paces paced grants uptakes last ∧ bytesWithin 0 4 (uptakes.map Uptake.entry) = 4 ∧
        ((4 : Nat) : ℚ) ≤ (1000000000 : UInt32).toNat * Instant.secondsUntil 0 4 := by
  have created : TokenBucket.create 1000000000 4 0 = .ok (dripping 0) := rfl
  have refused : (dripping 0).reserve 0 4 = (dripping 0, .ok ⟨4⟩) := by decide +kernel
  have granted : (dripping 0).reserve 4 4 = (dripping 4, .ok ⟨0⟩) := by decide +kernel
  let asking : WritePoint := .asking [1, 2, 3, 4] []
  let resting : WritePoint := .resting ⟨4⟩ [1, 2, 3, 4] []
  let sending (sent : Nat) : WritePoint := .sending [1, 2, 3, 4] sent []
  have written : Moves (droppingAt 0 0 none) [] [] (droppingAt 0 0 (some (asking, 0))) := by
    have moves : Moves (droppingAt 0 0 none) [] [] _ := .write [1, 2, 3, 4] rfl
    rw [droppingAt, beginWrite_unmarked] at moves
    exact moves
  have throttled : Moves (droppingAt 0 0 (some (asking, 0))) [(0, 0)] []
      (droppingAt 0 0 (some (resting, 0))) := by
    have moves : Moves (droppingAt 0 0 (some (asking, 0))) _ _ _ := .ask _ rfl refused
    exact moves
  have passed : Moves (droppingAt 0 0 (some (resting, 0))) [] []
      (droppingAt 4 0 (some (resting, 0))) := .pass (Nat.zero_le 4)
  have rested : Moves (droppingAt 4 0 (some (resting, 0))) [] []
      (droppingAt 4 0 (some (asking, 4))) := .rest (.ok ()) rfl
  have allowed : Moves (droppingAt 4 0 (some (asking, 4))) [(4, 4)] []
      (droppingAt 4 4 (some (sending 0, 4))) := by
    have moves : Moves (droppingAt 4 0 (some (asking, 4))) _ _ _ := .ask _ rfl granted
    exact moves
  have part : Moves (droppingAt 4 4 (some (sending 0, 4))) [] [⟨4, 4, 4, 3⟩]
      (droppingAt 4 4 (some (sending 3, 4))) := by
    have moves : Moves (droppingAt 4 4 (some (sending 0, 4))) [] [⟨4, 4, 4, 3⟩] _ :=
      .send (.ok 3) rfl rfl (le_refl 4) (le_refl 4)
    exact moves
  have rest : Moves (droppingAt 4 4 (some (sending 3, 4))) [] [⟨4, 4, 4, 1⟩]
      { stream := unmarkedStream 1, bucket := dripping 4, now := 4 } := by
    have moves : Moves (droppingAt 4 4 (some (sending 3, 4))) [] [⟨4, 4, 4, 1⟩] _ :=
      .send (.ok 9) rfl rfl (le_refl 4) (le_refl 4)
    exact moves
  have run := Paces.step written (.step throttled (.step passed (.step rested (.step allowed
    (.step part (.step rest .done))))))
  have bound := ((keeps_to_rate created).2 _ _ _ _ run).1 4
  exact ⟨_, _, _, _, run, rfl, bound⟩

end PacedStream

end FrameStream
