import FrameStream.Proofs.Pacing
import FrameStream.Proofs.Writes

/-!
The end of throttling. A wait is rounded to whole nanoseconds, so after it up to half a nanosecond's
worth of tokens may still be missing. The next wait is a whole nanosecond at least, and brings them.
-/

namespace FrameStream

/-- Rounding to the nearest takes off no more than half a unit. -/
theorem Decimal.le_roundedQuotient (numerator : Nat) (positive : 0 < denominator) :
    2 * numerator ≤ (2 * roundedQuotient numerator denominator + 1) * denominator := by
  have parts := Nat.div_add_mod numerator denominator
  have rest := Nat.mod_lt numerator positive
  have unit (quotient : Nat) :
      (2 * quotient + 1) * denominator = 2 * (denominator * quotient) + denominator := by
    rw [Nat.add_mul, Nat.mul_assoc, Nat.one_mul, Nat.mul_comm quotient]
  simp only [roundedQuotient]
  generalize numerator / denominator = quotient at parts ⊢
  generalize numerator % denominator = remainder at parts rest ⊢
  split_ifs with below above
  · rw [unit]
    omega
  · rw [unit, Nat.mul_add]
    omega
  · calc 2 * numerator
        ≤ (2 * quotient + 1) * denominator := by rw [unit]; omega
      _ ≤ (2 * (quotient + quotient % 2) + 1) * denominator :=
        Nat.mul_le_mul_right _ (by omega)

namespace Duration

theorem exactSeconds_mono {short long : Duration} (le : short.nanoseconds ≤ long.nanoseconds) :
    short.exactSeconds ≤ long.exactSeconds := by
  unfold exactSeconds
  gcongr

/-- A rounded duration is no more than half a nanosecond too short. -/
theorem le_of_ofExactSeconds? (rounded : ofExactSeconds? seconds = some wait) :
    seconds ≤ wait.exactSeconds + 1 / 2000000000 := by
  unfold ofExactSeconds? at rounded
  split_ifs at rounded with within
  cases rounded
  have positive : (0 : ℚ) < seconds.den := by exact_mod_cast seconds.den_pos
  have whole : seconds * seconds.den = (seconds.num.toNat : ℚ) := by
    rw [Rat.mul_den_eq_num]
    exact_mod_cast (Int.toNat_of_nonneg (Rat.num_nonneg.mpr within.1)).symm
  have bound := (Nat.cast_le (α := ℚ)).mpr
    (Decimal.le_roundedQuotient (seconds.num.toNat * 1000000000) seconds.den_pos)
  push_cast at bound
  rw [← whole] at bound
  refine le_of_mul_le_mul_right ?_ positive
  rw [exactSeconds]
  linarith

end Duration

namespace TokenBucket

variable {bucket next : TokenBucket ℚ} {rate capacity : ℚ} {now later : Instant} {demand : Nat}
  {wait : Duration} {answer : Except RateError Duration}

theorem Metered.le_level (metered : Metered rate capacity bucket)
    (waited : bucket.lastRefill + wait.nanoseconds ≤ later) :
    min (bucket.tokens + wait.exactSeconds * rate) capacity ≤ bucket.level later := by
  obtain ⟨rfl, rfl, rate_nonneg, _, _⟩ := metered
  have longer : wait.exactSeconds ≤ bucket.lastRefill.secondsUntil later :=
    Duration.exactSeconds_mono (Nat.le_sub_of_add_le' waited)
  exact min_le_min_right _ (by gcongr)

namespace Answers

variable (metered : Metered rate capacity bucket)
include metered

theorem eq_zero (answers : Answers bucket now demand next answer) (fits : (demand : ℚ) ≤ capacity)
    (enough : (demand : ℚ) ≤ bucket.level now) : answer = .ok .zero := by
  cases answers with
  | granted => rfl
  | throttled _ short => exact absurd enough (not_le.mpr short)
  | endless _ short => exact absurd enough (not_le.mpr short)
  | refused small => exact absurd (metered.capacity_eq ▸ fits) (not_le.mpr small)

theorem grants_or_waits (answers : Answers bucket now demand next answer) (fast : 1 ≤ rate)
    (fits : (demand : ℚ) ≤ capacity) (small : demand < secondsLimit) :
    answer = .ok .zero ∨ ∃ wait, answer = .ok wait ∧ wait.isZero = false := by
  have finite := answers.ne_endless_of_demand metered fast fun _ => by exact_mod_cast small
  cases answers with
  | granted => exact .inl rfl
  | @throttled shortest =>
    refine .inr ⟨_, rfl, beq_eq_false_iff_ne.mpr ?_⟩
    exact Nat.ne_zero_of_lt (Nat.le_max_right shortest.nanoseconds 1)
  | endless => exact absurd rfl finite
  | refused short => exact absurd (metered.capacity_eq ▸ fits) (not_le.mpr short)

section Waiting

variable (answers : Answers bucket now demand next (.ok wait)) (waits : wait.isZero = false)
  (slept : now + wait.nanoseconds ≤ later)
include answers waits slept

theorem le_level_after :
    min (bucket.level now + wait.exactSeconds * rate) capacity ≤ next.level later := by
  have kept := metered.answers answers
  cases answers with
  | granted => cases waits
  | throttled => exact kept.le_level slept

/-- After a wait there are tokens enough, but for half a nanosecond's worth. -/
theorem nearly_filled (fast : 1 ≤ rate) (fits : (demand : ℚ) ≤ capacity) :
    (demand : ℚ) ≤ next.level later + rate / 2000000000 := by
  have filled := answers.le_level_after metered waits slept
  cases answers with
  | granted => cases waits
  | @throttled shortest _ short rounded =>
    rw [metered.rate_eq] at rounded
    have lacking := Duration.le_of_ofExactSeconds? rounded
    have floor : shortest.exactSeconds ≤ Duration.exactSeconds ⟨max shortest.nanoseconds 1⟩ :=
      Duration.exactSeconds_mono (Nat.le_max_left _ _)
    rw [div_le_iff₀ (by linarith)] at lacking
    have arrived := mul_le_mul_of_nonneg_right floor metered.rate_nonneg
    refine le_trans ?_ (add_le_add_left filled _)
    rw [← min_add_add_right]
    exact le_min (by linarith) (by linarith)

/-- If only half a nanosecond's worth of tokens is missing, any wait brings them. -/
theorem filled (fits : (demand : ℚ) ≤ capacity)
    (near : (demand : ℚ) ≤ bucket.level now + rate / 2000000000) :
    (demand : ℚ) ≤ next.level later := by
  have nonzero : 1 ≤ wait.nanoseconds := by
    rw [Duration.isZero, beq_eq_false_iff_ne] at waits
    exact Nat.one_le_iff_ne_zero.mpr waits
  have floor : Duration.exactSeconds ⟨1⟩ ≤ wait.exactSeconds := Duration.exactSeconds_mono nonzero
  have arrived := mul_le_mul_of_nonneg_right floor metered.rate_nonneg
  refine le_trans (le_min ?_ fits) (answers.le_level_after metered waits slept)
  rw [Duration.exactSeconds, Nat.cast_one] at arrived
  linarith [metered.rate_nonneg]

end Waiting

end Answers

def asked (bucket : TokenBucket ℚ) (moments : Nat → Instant) (demand : Nat) : Nat → TokenBucket ℚ
  | 0 => bucket
  | count + 1 => ((bucket.asked moments demand count).reserve (moments count) demand).1

/-- What a bucket that is asked again and again answers, counted from zero. -/
def answerAt (bucket : TokenBucket ℚ) (moments : Nat → Instant) (demand count : Nat) :
    Except RateError Duration :=
  ((bucket.asked moments demand count).reserve (moments count) demand).2

theorem answersAt (bucket : TokenBucket ℚ) (moments : Nat → Instant) (demand count : Nat) :
    Answers (bucket.asked moments demand count) (moments count) demand
      (bucket.asked moments demand (count + 1)) (bucket.answerAt moments demand count) :=
  reserve_answers _ _ _

theorem Metered.asked (metered : Metered rate capacity bucket) (moments : Nat → Instant)
    (demand count : Nat) : Metered rate capacity (bucket.asked moments demand count) := by
  induction count with
  | zero => exact metered
  | succ count ih => exact ih.answers (bucket.answersAt moments demand count)

/-- Waits that a bucket asks for before it lets go at last. -/
def WaitsBefore (bucket : TokenBucket ℚ) (moments : Nat → Instant) (demand count : Nat) : Prop :=
  ∀ earlier < count, ∃ wait, bucket.answerAt moments demand earlier = .ok wait ∧ wait.isZero = false

/-- A clock on which no wait that a bucket asks for is over too early. -/
def Sleeps (bucket : TokenBucket ℚ) (moments : Nat → Instant) (demand : Nat) : Prop :=
  ∀ count wait, bucket.WaitsBefore moments demand count →
    bucket.answerAt moments demand count = .ok wait →
    moments count + wait.nanoseconds ≤ moments (count + 1)

theorem WaitsBefore.succ {moments : Nat → Instant} {count : Nat}
    (waits : bucket.WaitsBefore moments demand count)
    (answered : bucket.answerAt moments demand count = .ok wait) (some : wait.isZero = false) :
    bucket.WaitsBefore moments demand (count + 1) := by
  intro earlier before
  rcases Nat.lt_succ_iff_lt_or_eq.mp before with before | rfl
  · exact waits earlier before
  · exact ⟨wait, answered, some⟩

/-- What a bucket can hold it lets go after two waits at most. -/
theorem Metered.grants_after_waits {moments : Nat → Instant}
    (metered : Metered rate capacity bucket) (fast : 1 ≤ rate) (fits : (demand : ℚ) ≤ capacity)
    (small : demand < secondsLimit) (sleeps : bucket.Sleeps moments demand) :
    ∃ waits ≤ 2, bucket.WaitsBefore moments demand waits ∧
      bucket.answerAt moments demand waits = .ok .zero := by
  have asked := metered.asked moments demand
  have answers := bucket.answersAt moments demand
  have decides (count : Nat) := (answers count).grants_or_waits (asked count) fast fits small
  have never : bucket.WaitsBefore moments demand 0 := nofun
  rcases decides 0 with granted | ⟨first, answered, some⟩
  · exact ⟨0, by decide, never, granted⟩
  · have once := never.succ answered some
    have near := (answered ▸ answers 0).nearly_filled (asked 0) some (sleeps 0 first never answered)
      fast fits
    rcases decides 1 with granted | ⟨second, answered, some⟩
    · exact ⟨1, by decide, once, granted⟩
    · have enough := (answered ▸ answers 1).filled (asked 1) some (sleeps 1 second once answered)
        fits near
      exact ⟨2, by decide, once.succ answered some, (answers 2).eq_zero (asked 2) fits enough⟩

end TokenBucket

namespace PacedStream

theorem Paces.append (first : Paces start grants uptakes middle)
    (second : Paces middle more others last) :
    Paces start (grants ++ more) (uptakes ++ others) last := by
  induction first with
  | done => exact second
  | step moves _ ih =>
    rw [List.append_assoc, List.append_assoc]
    exact .step moves (ih second)

def standing (stream : InputStream) (bucket : TokenBucket ℚ) (now : Instant) (point : WritePoint) :
    PacedStream :=
  { stream, bucket, now, work? := some (point, now) }

section Throttled

variable {stream : InputStream} {bucket : TokenBucket ℚ} {payload : Bytes} {later : List Bytes}
  {moments : Nat → Instant} {count : Nat}

def throttled (stream : InputStream) (bucket : TokenBucket ℚ) (payload : Bytes) (later : List Bytes)
    (moments : Nat → Instant) (count : Nat) : PacedStream :=
  standing stream (bucket.asked moments payload.length count) (moments count)
    (.asking payload later)

theorem throttled_asks (answered : bucket.answerAt moments payload.length count = answer)
    (goesOn : (stream.granted payload later answer).value = (stream, .waiting point)) :
    ∃ grants, Moves (throttled stream bucket payload later moments count) grants []
      (standing stream (bucket.asked moments payload.length (count + 1)) (moments count)
        point) := by
  have served : (bucket.asked moments payload.length count).reserve (moments count) payload.length =
      (bucket.asked moments payload.length (count + 1), answer) := Prod.ext rfl answered
  have asks : Moves (throttled stream bucket payload later moments count) _ _ _ :=
    .ask payload rfl served
  change Moves _ _ _ (PacedStream.follow _ (stream.granted payload later answer).value) at asks
  rw [goesOn] at asks
  exact ⟨_, asks⟩

theorem throttled_wait (answered : bucket.answerAt moments payload.length count = .ok wait)
    (some : wait.isZero = false) (forward : moments count ≤ moments (count + 1)) :
    ∃ grants, Paces (throttled stream bucket payload later moments count) grants []
      (throttled stream bucket payload later moments (count + 1)) := by
  have rests : (stream.granted payload later (.ok wait)).value =
      (stream, .waiting (.resting wait payload later)) := by
    rw [InputStream.granted, if_neg (by simp [some])]
  obtain ⟨_, asks⟩ := throttled_asks answered rests
  exact ⟨_, .step asks (.step (.pass forward) (.step (.rest (.ok ()) rfl) .done))⟩

theorem throttled_grant (nonempty : payload ≠ [])
    (answered : bucket.answerAt moments payload.length count = .ok .zero) :
    ∃ grants, Paces (throttled stream bucket payload later moments count) grants []
      (standing stream (bucket.asked moments payload.length (count + 1)) (moments count)
        (.sending payload 0 later)) := by
  obtain ⟨_, asks⟩ := throttled_asks answered (InputStream.granted_zero stream nonempty)
  exact ⟨_, asks.paces⟩

theorem throttled_waits (sleeps : bucket.Sleeps moments payload.length)
    (waits : bucket.WaitsBefore moments payload.length count) :
    ∃ grants, Paces (throttled stream bucket payload later moments 0) grants []
      (throttled stream bucket payload later moments count) := by
  induction count with
  | zero => exact ⟨[], .done⟩
  | succ count ih =>
    have before : bucket.WaitsBefore moments payload.length count :=
      fun earlier less => waits earlier (Nat.lt_succ_of_lt less)
    obtain ⟨wait, answered, some⟩ := waits count (Nat.lt_succ_self count)
    have slept := sleeps count wait before answered
    obtain ⟨grants, first⟩ := ih before
    obtain ⟨more, last⟩ := throttled_wait answered some (Nat.le_of_add_right_le slept)
    exact ⟨_, first.append last⟩

end Throttled

/-- Throttling ends: what a bucket can hold at all it lets go after two waits at most, whatever it
holds and however much longer than asked for the waits are. A stream that stays active then sends
the payload that it asked for. -/
theorem throttling_ends {bucket : TokenBucket ℚ} {demand : UInt64} {moments : Nat → Instant}
    (fast : 1 ≤ bucket.rate) (held : 0 ≤ bucket.tokens) (within : bucket.tokens ≤ bucket.capacity)
    (fits : (demand.toNat : ℚ) ≤ bucket.capacity) (sleeps : bucket.Sleeps moments demand.toNat) :
    ∃ waits ≤ 2, bucket.WaitsBefore moments demand.toNat waits ∧
      bucket.answerAt moments demand.toNat waits = .ok .zero ∧
      ∀ stream payload later, payload.length = demand.toNat → payload ≠ [] →
        ∃ grants,
          Paces (standing stream bucket (moments 0) (.asking payload later)) grants []
            (standing stream (bucket.asked moments demand.toNat (waits + 1)) (moments waits)
              (.sending payload 0 later)) := by
  have metered : TokenBucket.Metered bucket.rate bucket.capacity bucket :=
    ⟨rfl, rfl, zero_le_one.trans fast, held, within⟩
  obtain ⟨waits, few, before, granted⟩ :=
    metered.grants_after_waits fast fits demand.toNat_lt sleeps
  refine ⟨waits, few, before, granted, ?_⟩
  intro stream payload later length nonempty
  rw [← length] at sleeps before granted ⊢
  obtain ⟨grants, first⟩ := throttled_waits sleeps before
  obtain ⟨more, last⟩ := throttled_grant nonempty granted
  exact ⟨_, first.append last⟩

private def trickling : TokenBucket ℚ := { rate := 3, capacity := 10, tokens := 0, lastRefill := 0 }

private def punctual : Nat → Instant
  | 0 => 0
  | 1 => 333333333
  | _ => 333333334

private theorem trickling_answers :
    trickling.answerAt punctual 1 0 = .ok ⟨333333333⟩ ∧
      trickling.answerAt punctual 1 1 = .ok ⟨1⟩ ∧ trickling.answerAt punctual 1 2 = .ok .zero := by
  decide +kernel

/-- The first wait is rounded down by a third of a nanosecond, so a second one is needed. -/
theorem throttling_ends_after_two :
    1 ≤ trickling.rate ∧ 0 ≤ trickling.tokens ∧ trickling.tokens ≤ trickling.capacity ∧
      ((1 : UInt64).toNat : ℚ) ≤ trickling.capacity ∧
      trickling.Sleeps punctual (1 : UInt64).toNat ∧
      trickling.answerAt punctual 1 1 = .ok ⟨1⟩ ∧
      ∃ waits ≤ 2, trickling.answerAt punctual 1 waits = .ok .zero := by
  have ⟨first, second, third⟩ := trickling_answers
  have sleeps : trickling.Sleeps punctual (1 : UInt64).toNat := by
    intro count wait before answered
    change trickling.answerAt punctual 1 count = .ok wait at answered
    match count with
    | 0 =>
      cases first.symm.trans answered
      decide
    | 1 =>
      cases second.symm.trans answered
      decide
    | 2 =>
      cases third.symm.trans answered
      decide
    | more + 3 =>
      obtain ⟨longer, again, some⟩ := before 2 (by omega)
      cases third.symm.trans again
      cases some
  have fast : 1 ≤ trickling.rate := by decide +kernel
  have held : 0 ≤ trickling.tokens := by decide +kernel
  have within : trickling.tokens ≤ trickling.capacity := by decide +kernel
  have fits : ((1 : UInt64).toNat : ℚ) ≤ trickling.capacity := by decide +kernel
  obtain ⟨waits, few, _, granted, _⟩ := throttling_ends fast held within fits sleeps
  exact ⟨fast, held, within, fits, sleeps, second, waits, few, granted⟩

end PacedStream

end FrameStream
