import FrameStream.Pacing.TokenBucket
import Mathlib.Algebra.Order.Field.Basic
import Mathlib.Data.Rat.Cast.Order
import Mathlib.Tactic.FieldSimp
import Mathlib.Tactic.Linarith
import Mathlib.Tactic.Positivity

namespace FrameStream

def Duration.exactSeconds (duration : Duration) : ℚ := duration.nanoseconds / 1000000000

def Duration.ofExactSeconds? (seconds : ℚ) : Option Duration :=
  if 0 ≤ seconds ∧ seconds < secondsLimit then
    some ⟨Decimal.roundedQuotient (seconds.num.toNat * 1000000000) seconds.den⟩
  else none

instance : TokenQuantity ℚ where
  ofCount := Nat.cast
  toCount tokens := tokens.floor.toNat
  atMost first second := first ≤ second
  seconds := Duration.exactSeconds
  duration? := Duration.ofExactSeconds?

namespace Instant

/-- The seconds from one moment to a later one; none if it is not later. -/
def secondsUntil (start finish : Instant) : ℚ := Duration.exactSeconds ⟨finish - start⟩

theorem secondsUntil_nonneg (start finish : Instant) : 0 ≤ secondsUntil start finish := by
  unfold secondsUntil Duration.exactSeconds
  positivity

theorem secondsUntil_add {start middle finish : Instant} (first : start ≤ middle)
    (second : middle ≤ finish) :
    secondsUntil start middle + secondsUntil middle finish = secondsUntil start finish := by
  unfold secondsUntil Duration.exactSeconds
  rw [← Nat.sub_add_sub_cancel second first, Nat.cast_add, add_div, add_comm]

theorem secondsUntil_mono {start : Instant} (earlier : start ≤ middle) (finish : Instant) :
    secondsUntil middle finish ≤ secondsUntil start finish := by
  have fewer := Nat.sub_le_sub_left earlier finish
  unfold secondsUntil Duration.exactSeconds
  gcongr

end Instant

namespace TokenBucket

deriving instance DecidableEq for TokenBucket

/-- What a bucket holds at some moment. -/
def level (bucket : TokenBucket ℚ) (now : Instant) : ℚ :=
  min (bucket.tokens + bucket.lastRefill.secondsUntil now * bucket.rate) bucket.capacity

/-- A bucket of some rate and capacity that holds neither less than nothing nor too much. -/
structure Metered (rate capacity : ℚ) (bucket : TokenBucket ℚ) : Prop where
  rate_eq : bucket.rate = rate
  capacity_eq : bucket.capacity = capacity
  rate_nonneg : 0 ≤ rate
  tokens_nonneg : 0 ≤ bucket.tokens
  tokens_le : bucket.tokens ≤ capacity

/-- What a bucket can be asked and answer at some moment, and what it holds then. Only a zero answer
takes anything; a refusal of what no grant can be large enough for does not even fill the bucket. -/
inductive Answers (bucket : TokenBucket ℚ) (now : Instant) (demand : Nat) :
    TokenBucket ℚ → Except RateError Duration → Prop where
  | granted : demand ≤ bucket.capacity → demand ≤ bucket.level now →
      Answers bucket now demand
        { bucket with tokens := bucket.level now - demand, lastRefill := now } (.ok .zero)
  | throttled : demand ≤ bucket.capacity → bucket.level now < demand →
      Duration.ofExactSeconds? ((demand - bucket.level now) / bucket.rate) = some wait →
      Answers bucket now demand
        { bucket with tokens := bucket.level now, lastRefill := now }
        (.ok ⟨max wait.nanoseconds 1⟩)
  | endless : demand ≤ bucket.capacity → bucket.level now < demand →
      Duration.ofExactSeconds? ((demand - bucket.level now) / bucket.rate) = none →
      Answers bucket now demand
        { bucket with tokens := bucket.level now, lastRefill := now } (.error .endlessWait)
  | refused : bucket.capacity < demand →
      Answers bucket now demand bucket (.error (.exceedsBurst demand bucket.capacityCount))

variable {bucket : TokenBucket ℚ} {rate capacity : ℚ} {now : Instant}

theorem refill_eq (bucket : TokenBucket ℚ) (now : Instant) :
    bucket.refill now = { bucket with tokens := bucket.level now, lastRefill := now } := by
  have least (first second : ℚ) : TokenQuantity.least first second = min first second := by
    rw [min_def, TokenQuantity.least]
    exact if_congr decide_eq_true_iff rfl rfl
  rw [refill, least]
  rfl

theorem reserve_answers (bucket : TokenBucket ℚ) (now : Instant) (demand : Nat) :
    Answers bucket now demand (bucket.reserve now demand).1 (bucket.reserve now demand).2 := by
  unfold reserve
  rw [refill_eq]
  by_cases small : (demand : ℚ) ≤ bucket.capacity
  · by_cases enough : (demand : ℚ) ≤ bucket.level now
    · simp only [TokenQuantity.atMost, TokenQuantity.ofCount, small, enough, decide_true, if_true]
      exact .granted small enough
    · simp only [TokenQuantity.atMost, TokenQuantity.ofCount, small, enough, decide_true, if_true,
        decide_false, Bool.false_eq_true, if_false]
      split
      · exact .throttled small (not_le.mp enough) ‹_›
      · exact .endless small (not_le.mp enough) ‹_›
  · simp only [TokenQuantity.atMost, TokenQuantity.ofCount, small, decide_false,
      Bool.false_eq_true, if_false]
    exact .refused (not_le.mp small)

theorem create_metered {bytesPerSecond : UInt32} {capacity : Nat} {start : Instant}
    (created : create bytesPerSecond capacity start = .ok bucket) :
    Metered bytesPerSecond.toNat capacity bucket ∧ bucket.lastRefill = start ∧
      bucket.tokens = 0 := by
  unfold create at created
  split at created
  · cases created
  · cases created
    have empty : (TokenQuantity.ofCount 0 : ℚ) = 0 := Nat.cast_zero
    exact ⟨⟨rfl, rfl, Nat.cast_nonneg _, empty.ge, empty.le.trans (Nat.cast_nonneg _)⟩, rfl, empty⟩

theorem one_le_rate {bytesPerSecond : UInt32} {capacity : Nat} {start : Instant}
    (created : create bytesPerSecond capacity start = .ok bucket) :
    (1 : ℚ) ≤ bytesPerSecond.toNat := by
  unfold create at created
  split at created
  · cases created
  · rename_i nonzero
    have positive : bytesPerSecond.toNat ≠ 0 := fun zero => nonzero (UInt32.toNat_inj.mp zero)
    exact_mod_cast Nat.one_le_iff_ne_zero.mpr positive

namespace Metered

variable (metered : Metered rate capacity bucket)
include metered

theorem level_nonneg (now : Instant) : 0 ≤ bucket.level now := by
  obtain ⟨rfl, rfl, rate_nonneg, tokens_nonneg, tokens_le⟩ := metered
  have arrived := mul_nonneg (bucket.lastRefill.secondsUntil_nonneg now) rate_nonneg
  exact le_min (add_nonneg tokens_nonneg arrived) (tokens_nonneg.trans tokens_le)

theorem level_le (now : Instant) : bucket.level now ≤ capacity :=
  (min_le_right _ _).trans metered.capacity_eq.le

theorem level_lastRefill : bucket.level bucket.lastRefill = bucket.tokens := by
  have none : bucket.lastRefill.secondsUntil bucket.lastRefill = 0 := by
    simp [Instant.secondsUntil, Duration.exactSeconds]
  rw [level, none, zero_mul, add_zero, metered.capacity_eq, min_eq_left metered.tokens_le]

/-- What a bucket holds grows no faster than its rate. -/
theorem level_later (past : bucket.lastRefill ≤ now) (passes : now ≤ later) :
    bucket.level later ≤ bucket.level now + now.secondsUntil later * rate := by
  obtain ⟨rfl, rfl, rate_nonneg, _, _⟩ := metered
  have arrived := mul_nonneg (now.secondsUntil_nonneg later) rate_nonneg
  rw [level, level, ← Instant.secondsUntil_add past passes, add_mul, ← add_assoc,
    ← min_add_add_right]
  exact min_le_min_left _ (le_add_of_nonneg_right arrived)

theorem refilled {held : ℚ} (nonneg : 0 ≤ held) (atMost : held ≤ capacity) :
    Metered rate capacity { bucket with tokens := held, lastRefill := now } :=
  ⟨metered.rate_eq, metered.capacity_eq, metered.rate_nonneg, nonneg, atMost⟩

theorem answers (answers : Answers bucket now demand next answer) :
    Metered rate capacity next := by
  cases answers with
  | granted _ enough =>
    exact metered.refilled (sub_nonneg.mpr enough)
      ((sub_le_self _ (Nat.cast_nonneg _)).trans (metered.level_le now))
  | throttled | endless => exact metered.refilled (metered.level_nonneg now) (metered.level_le now)
  | refused => exact metered

end Metered

/-- The bytes that an answer lets go: all that were asked for, or none. -/
def allowed (demand : Nat) : Except RateError Duration → Nat
  | .ok wait => if wait.isZero then demand else 0
  | .error _ => 0

/-- A zero answer takes exactly what was asked for, and any other answer takes nothing. -/
theorem Answers.level_eq (answers : Answers bucket now demand next answer)
    (metered : Metered rate capacity bucket) :
    next.level now = bucket.level now - allowed demand answer := by
  have kept := metered.answers answers
  cases answers with
  | granted => exact kept.level_lastRefill
  | @throttled wait =>
    have waits : allowed demand (.ok ⟨max wait.nanoseconds 1⟩) = 0 :=
      if_neg (by simp only [Duration.isZero, beq_iff_eq]; omega)
    rw [waits, Nat.cast_zero, sub_zero]
    exact kept.level_lastRefill
  | endless =>
    rw [allowed, Nat.cast_zero, sub_zero]
    exact kept.level_lastRefill
  | refused => rw [allowed, Nat.cast_zero, sub_zero]

theorem Answers.lastRefill_le (answers : Answers bucket now demand next answer)
    (past : bucket.lastRefill ≤ now) : next.lastRefill ≤ now := by
  cases answers with
  | granted | throttled | endless => exact le_refl now
  | refused => exact past

/-- A bucket that fills by a token a second at least never says that a wait for fewer tokens than
any duration has seconds would be endless. -/
theorem Answers.ne_endless_of_demand (answers : Answers bucket now demand next answer)
    (metered : Metered rate capacity bucket) (fast : 1 ≤ rate)
    (small : (demand : ℚ) ≤ capacity → (demand : ℚ) < secondsLimit) :
    answer ≠ .error .endlessWait := by
  cases answers with
  | granted | throttled | refused => nofun
  | endless within short endless =>
    have least := metered.level_nonneg now
    have lacking : demand - bucket.level now ≤ demand := sub_le_self _ least
    have positive : 0 < demand - bucket.level now := sub_pos.mpr short
    have finite := div_le_self positive.le (metered.rate_eq.symm ▸ fast)
    rw [Duration.ofExactSeconds?, if_pos] at endless
    · cases endless
    · exact ⟨div_nonneg positive.le (metered.rate_eq.symm ▸ metered.rate_nonneg),
        finite.trans_lt (lacking.trans_lt (small (metered.capacity_eq ▸ within)))⟩

theorem Answers.ne_endless (answers : Answers bucket now demand next answer)
    (metered : Metered rate capacity bucket) (fast : 1 ≤ rate) (small : capacity < secondsLimit) :
    answer ≠ .error .endlessWait :=
  answers.ne_endless_of_demand metered fast fun fits => fits.trans_lt small

end TokenBucket

end FrameStream
