import FrameStream.Proofs.ExactTokens

namespace FrameStream

/-- How many bytes are listed under the moments from `start` to `finish`. -/
def bytesWithin (start finish : Instant) (entries : List (Instant × Nat)) : Nat :=
  ((entries.filter fun entry => start ≤ entry.1 ∧ entry.1 ≤ finish).map Prod.snd).sum

section BytesWithin

variable {start finish time : Instant} {bytes : Nat} {entries more : List (Instant × Nat)}

@[simp]
theorem bytesWithin_nil : bytesWithin start finish [] = 0 := rfl

theorem bytesWithin_cons :
    bytesWithin start finish ((time, bytes) :: entries) =
      (if start ≤ time ∧ time ≤ finish then bytes else 0) + bytesWithin start finish entries := by
  unfold bytesWithin
  rw [List.filter_cons]
  by_cases within : start ≤ time ∧ time ≤ finish
  · simp [within]
  · simp [within]

theorem bytesWithin_append :
    bytesWithin start finish (entries ++ more) =
      bytesWithin start finish entries + bytesWithin start finish more := by
  simp [bytesWithin]

theorem bytesWithin_eq_zero (later : ∀ entry ∈ entries, finish < entry.1) :
    bytesWithin start finish entries = 0 := by
  have none : entries.filter (fun entry => start ≤ entry.1 ∧ entry.1 ≤ finish) = [] := by
    rw [List.filter_eq_nil_iff]
    intro entry member
    have after := not_le.mpr (later entry member)
    simp [after]
  rw [bytesWithin, none]
  rfl

theorem bytesWithin_le_zero (start finish : Instant) (entries : List (Instant × Nat)) :
    bytesWithin start finish entries ≤ bytesWithin 0 finish entries := by
  induction entries with
  | nil => exact le_refl _
  | cons entry entries ih =>
    obtain ⟨time, bytes⟩ := entry
    rw [bytesWithin_cons, bytesWithin_cons]
    refine Nat.add_le_add ?_ ih
    by_cases within : start ≤ time ∧ time ≤ finish
    · rw [if_pos within, if_pos ⟨Nat.zero_le _, within.2⟩]
    · rw [if_neg within]
      exact Nat.zero_le _

end BytesWithin

namespace TokenBucket

/-- What requests make of a bucket in the course of time, with the times and the sizes of those that
are granted. -/
inductive Serves : TokenBucket ℚ → Instant → List (Instant × Nat) → TokenBucket ℚ → Instant →
    Prop where
  | done : Serves bucket now [] bucket now
  | pass : now ≤ later → Serves bucket later grants last final →
      Serves bucket now grants last final
  | reserve (demand : Nat) : Serves (bucket.reserve now demand).1 now grants last final →
      Serves bucket now ((now, allowed demand (bucket.reserve now demand).2) :: grants) last final

variable {bucket last : TokenBucket ℚ} {rate capacity : ℚ} {now final : Instant}
  {grants : List (Instant × Nat)}

theorem Serves.append (first : Serves bucket now grants middle between)
    (second : Serves middle between more last final) :
    Serves bucket now (grants ++ more) last final := by
  induction first with
  | done => exact second
  | pass passes _ ih => exact .pass passes (ih second)
  | reserve demand _ ih => exact .reserve demand (ih second)

theorem Serves.le_time (run : Serves bucket now grants last final) :
    ∀ grant ∈ grants, now ≤ grant.1 := by
  induction run with
  | done => nofun
  | pass passes _ ih => exact fun grant member => passes.trans (ih grant member)
  | reserve demand _ ih => exact List.forall_mem_cons.mpr ⟨le_refl _, ih⟩

theorem Serves.metered (run : Serves bucket now grants last final)
    (metered : Metered rate capacity bucket) : Metered rate capacity last := by
  induction run with
  | done => exact metered
  | pass _ _ ih => exact ih metered
  | reserve demand _ ih => exact ih (metered.answers (reserve_answers _ _ demand))

/-- By any moment no more was let go than a bucket held and what arrived since. -/
theorem Serves.le_level (run : Serves bucket now grants last final)
    (metered : Metered rate capacity bucket) (past : bucket.lastRefill ≤ now)
    (upTo : now ≤ finish) :
    (bytesWithin 0 finish grants : ℚ) ≤ bucket.level now + now.secondsUntil finish * rate := by
  induction run with
  | @done bucket now =>
    have arrived := mul_nonneg (now.secondsUntil_nonneg finish) metered.rate_nonneg
    exact_mod_cast add_nonneg (metered.level_nonneg now) arrived
  | @pass now later bucket grants last final passes run ih =>
    by_cases included : later ≤ finish
    · calc (bytesWithin 0 finish grants : ℚ)
          ≤ bucket.level later + later.secondsUntil finish * rate :=
            ih metered (past.trans passes) included
        _ ≤ bucket.level now + now.secondsUntil later * rate +
              later.secondsUntil finish * rate :=
            add_le_add_left (metered.level_later past passes) _
        _ = bucket.level now + now.secondsUntil finish * rate := by
            rw [add_assoc, ← add_mul, Instant.secondsUntil_add passes included]
    · have after : ∀ grant ∈ grants, finish < grant.1 := fun grant member =>
        (not_le.mp included).trans_le (run.le_time grant member)
      have arrived := mul_nonneg (now.secondsUntil_nonneg finish) metered.rate_nonneg
      rw [bytesWithin_eq_zero after]
      exact_mod_cast add_nonneg (metered.level_nonneg now) arrived
  | @reserve now grants last final bucket demand run ih =>
    have answers := bucket.reserve_answers now demand
    have level := answers.level_eq metered
    have rest := ih (metered.answers answers) (answers.lastRefill_le past) upTo
    rw [bytesWithin_cons, if_pos ⟨Nat.zero_le _, upTo⟩]
    push_cast
    linarith

/-- In any span of time no more is let go than a bucket can hold and what arrives meanwhile. -/
theorem Serves.le_capacity (run : Serves bucket now grants last final)
    (metered : Metered rate capacity bucket) (past : bucket.lastRefill ≤ now)
    (start finish : Instant) :
    (bytesWithin start finish grants : ℚ) ≤ capacity + start.secondsUntil finish * rate := by
  have capacity_nonneg := metered.tokens_nonneg.trans metered.tokens_le
  have arrived := mul_nonneg (start.secondsUntil_nonneg finish) metered.rate_nonneg
  induction run with
  | done => exact_mod_cast add_nonneg capacity_nonneg arrived
  | pass passes _ ih => exact ih metered (past.trans passes)
  | @reserve now grants last final bucket demand run ih =>
    have answers := bucket.reserve_answers now demand
    have rest := ih (metered.answers answers) (answers.lastRefill_le past)
    by_cases within : start ≤ now ∧ now ≤ finish
    · have store := (Serves.reserve demand run).le_level metered past within.2
      have fewer := mul_le_mul_of_nonneg_right
        (Instant.secondsUntil_mono within.1 finish) metered.rate_nonneg
      calc (bytesWithin start finish (_ :: grants) : ℚ)
          ≤ bytesWithin 0 finish (_ :: grants) := by exact_mod_cast bytesWithin_le_zero _ _ _
        _ ≤ bucket.level now + now.secondsUntil finish * rate := store
        _ ≤ capacity + start.secondsUntil finish * rate := add_le_add (metered.level_le now) fewer
    · rw [bytesWithin_cons, if_neg within, zero_add]
      exact rest

/-- A bucket that was empty has given no more by any moment than arrived since. -/
theorem Serves.le_arrived (run : Serves bucket now grants last final)
    (metered : Metered rate capacity bucket) (fresh : bucket.lastRefill = now)
    (empty : bucket.tokens = 0) (finish : Instant) :
    (bytesWithin 0 finish grants : ℚ) ≤ now.secondsUntil finish * rate := by
  by_cases upTo : now ≤ finish
  · have store := run.le_level metered fresh.le upTo
    subst fresh
    rwa [metered.level_lastRefill, empty, zero_add] at store
  · have after : ∀ grant ∈ grants, finish < grant.1 := fun grant member =>
      (not_le.mp upTo).trans_le (run.le_time grant member)
    rw [bytesWithin_eq_zero after]
    exact_mod_cast mul_nonneg (now.secondsUntil_nonneg finish) metered.rate_nonneg

end TokenBucket

end FrameStream
