import FrameStream.Lifecycle.Interruption
import FrameStream.Proofs.Since
import Mathlib.Data.List.DropRight

/-!
The state of a stream as a function of the calls made on its lifecycle, in the order in which it
takes them and whoever makes them. While a stream is aborted its state does not tell whether it was
activated, so what carries the induction is the whole phase: each of its two flags says that some
call was made which has not been undone since.
-/

namespace FrameStream

namespace Lifecycle

/-- What is stored of a lifecycle besides its name. -/
def phase (lifecycle : Lifecycle) : Bool × Bool := (lifecycle.isActivated, lifecycle.isAborted)

/-- What calls make of a new lifecycle. -/
def afterCalls (name : String) (calls : List LifecycleChange) : Lifecycle :=
  calls.foldl (fun lifecycle call => (lifecycle.change call).value) { name }

/-- A call for activation that succeeds after the calls before it. -/
def Activates (name : String) (before : List LifecycleChange) (call : LifecycleChange) : Prop :=
  call = .activation ∧ ∃ activated, (afterCalls name before).activate = .ok activated

/-- A call after which no abort is left. -/
def Resolves (name : String) (before : List LifecycleChange) (call : LifecycleChange) : Prop :=
  call = .signal .clearAbort ∨ call = .signal .deactivate ∨ Activates name before call

/-- Some abort comes after the last call that resolves one. -/
def AbortStands (name : String) (calls : List LifecycleChange) : Prop :=
  Since (fun _ call => call = .signal .abort) (Resolves name) calls

/-- Some activation succeeded after the last deactivation. -/
def ActivationStands (name : String) (calls : List LifecycleChange) : Prop :=
  Since (Activates name) (fun _ call => call = .signal .deactivate) calls

/-- A history without the aborts at its end, which nothing has resolved. -/
def settled (calls : List LifecycleChange) : List LifecycleChange :=
  calls.rdropWhile (· = .signal .abort)

variable {name : String} {calls : List LifecycleChange} {call : LifecycleChange}

@[simp]
theorem afterCalls_snoc :
    afterCalls name (calls ++ [call]) = ((afterCalls name calls).change call).value :=
  List.foldl_append

section States

variable {lifecycle : Lifecycle}

theorem state_eq_aborted : lifecycle.state = .aborted ↔ lifecycle.isAborted = true := by
  cases aborted : lifecycle.isAborted <;> cases activated : lifecycle.isActivated <;>
    simp [state, aborted, activated]

theorem state_eq_active :
    lifecycle.state = .active ↔ lifecycle.isAborted = false ∧ lifecycle.isActivated = true := by
  cases aborted : lifecycle.isAborted <;> cases activated : lifecycle.isActivated <;>
    simp [state, aborted, activated]

theorem state_eq_inactive :
    lifecycle.state = .inactive ↔
      lifecycle.isAborted = false ∧ lifecycle.isActivated = false := by
  cases aborted : lifecycle.isAborted <;> cases activated : lifecycle.isActivated <;>
    simp [state, aborted, activated]

theorem activate_eq_error {error : StreamError} :
    lifecycle.activate = .error error ↔ lifecycle.state = .active ∧ error = .alreadyActivated := by
  unfold activate
  split
  · simp_all [eq_comm]
  · simp_all

theorem activate_succeeds :
    (∃ activated, lifecycle.activate = .ok activated) ↔ lifecycle.state ≠ .active := by
  unfold activate
  split <;> simp_all

/-- Every call sets its flags, whatever they were. An activation that is refused finds them set. -/
theorem change_value :
    (lifecycle.change call).value =
      match call with
      | .activation => { lifecycle with isActivated := true, isAborted := false }
      | .signal .abort => { lifecycle with isAborted := true }
      | .signal .clearAbort => { lifecycle with isAborted := false }
      | .signal .deactivate => { lifecycle with isActivated := false, isAborted := false } := by
  cases call with
  | signal signal => cases signal <;> rfl
  | activation =>
    by_cases active : lifecycle.state = .active
    · have ⟨kept, activated⟩ := state_eq_active.mp active
      simp [change, activate, active, ← kept, ← activated]
    · simp [change, activate, active]

theorem length_events_change :
    (lifecycle.change call).events.length =
      if (lifecycle.change call).value.phase = lifecycle.phase then 0 else 1 := by
  obtain ⟨name, isActivated, isAborted⟩ := lifecycle
  cases call with
  | signal signal =>
    cases signal <;> cases isActivated <;> cases isAborted <;> rfl
  | activation => cases isActivated <;> cases isAborted <;> rfl

theorem change_activation_eq_self :
    (lifecycle.change .activation).value = lifecycle ↔ lifecycle.state = .active := by
  obtain ⟨name, isActivated, isAborted⟩ := lifecycle
  simp [change_value, state_eq_active, and_comm]

theorem isAborted_change :
    (lifecycle.change call).value.isAborted = true ↔
      call = .signal .abort ∨ lifecycle.isAborted = true ∧
        ¬ (call = .signal .clearAbort ∨ call = .signal .deactivate ∨
          call = .activation ∧ lifecycle.state ≠ .active) := by
  rw [change_value]
  cases call with
  | signal signal => cases signal <;> simp
  | activation => simp +contextual [state_eq_active]

theorem isActivated_change :
    (lifecycle.change call).value.isActivated = true ↔
      (call = .activation ∧ lifecycle.state ≠ .active) ∨
        lifecycle.isActivated = true ∧ call ≠ .signal .deactivate := by
  rw [change_value]
  cases call with
  | signal signal => cases signal <;> simp
  | activation => cases activated : lifecycle.isActivated <;> simp [state_eq_active, activated]

end States

theorem activates_iff :
    Activates name calls call ↔ call = .activation ∧ (afterCalls name calls).state ≠ .active :=
  and_congr_right fun _ => activate_succeeds

theorem isAborted_afterCalls :
    (afterCalls name calls).isAborted = true ↔ AbortStands name calls := by
  induction calls using List.reverseRecOn with
  | nil => exact iff_of_false nofun not_since_nil
  | append_singleton calls call inductionHypothesis =>
    rw [afterCalls_snoc, isAborted_change, AbortStands, since_snoc, ← activates_iff,
      inductionHypothesis]
    rfl

/-- The flag of an activation tells whether one stands, also where an abort hides it. -/
theorem isActivated_afterCalls :
    (afterCalls name calls).isActivated = true ↔ ActivationStands name calls := by
  induction calls using List.reverseRecOn with
  | nil => exact iff_of_false nofun not_since_nil
  | append_singleton calls call inductionHypothesis =>
    rw [afterCalls_snoc, isActivated_change, ActivationStands, since_snoc, ← activates_iff,
      inductionHypothesis]
    rfl

/-- Without the aborts at its end a history leads to the same but for the abort. -/
theorem afterCalls_settled (calls : List LifecycleChange) :
    afterCalls name (settled calls) = { afterCalls name calls with isAborted := false } := by
  induction calls using List.reverseRecOn with
  | nil => rfl
  | append_singleton calls call inductionHypothesis =>
    by_cases aborts : call = .signal .abort
    · rw [settled, List.rdropWhile_concat_pos _ _ _ (by simpa using aborts), ← settled,
        inductionHypothesis, afterCalls_snoc, aborts, change_value]
    · rw [settled, List.rdropWhile_concat_neg _ _ _ (by simpa using aborts), afterCalls_snoc,
        change_value]
      cases call with
      | signal signal =>
        cases signal with
        | abort => exact absurd rfl aborts
        | clearAbort | deactivate => rfl
      | activation => rfl

/-- Only aborts at the end of a history have not been resolved. -/
theorem settled_resolved (name : String) (calls : List LifecycleChange) :
    ¬ AbortStands name (settled calls) := by
  rw [← isAborted_afterCalls, afterCalls_settled]
  exact Bool.false_ne_true

theorem eq_settled_append (calls : List LifecycleChange) :
    ∃ count, calls = settled calls ++ List.replicate count (.signal .abort) := by
  refine ⟨(calls.rtakeWhile (· = .signal .abort)).length, ?_⟩
  have aborts : calls.rtakeWhile (· = .signal .abort) =
      List.replicate (calls.rtakeWhile (· = .signal .abort)).length (.signal .abort) :=
    List.eq_replicate_of_mem fun call member => by simpa using List.mem_rtakeWhile_imp member
  rw [← aborts]
  exact List.rdropWhile_append_rtakeWhile.symm

theorem settled_aborts (calls : List LifecycleChange) (count : Nat) :
    settled (calls ++ List.replicate count (.signal .abort)) = settled calls := by
  induction count with
  | zero => rw [List.replicate_zero, List.append_nil]
  | succ count inductionHypothesis =>
    rw [List.replicate_succ', ← List.append_assoc, settled,
      List.rdropWhile_concat_pos _ _ _ (by simp)]
    exact inductionHypothesis

/-- Clearing the aborts at the end of a history gives back the phase that they hid. -/
theorem afterCalls_cleared (name : String) (calls : List LifecycleChange) (count : Nat) :
    afterCalls name
        (calls ++ List.replicate count (.signal .abort) ++ [.signal .clearAbort]) =
      afterCalls name (settled calls) := by
  rw [afterCalls_snoc, change_value, ← settled_aborts calls count, afterCalls_settled]

/-- The state is a function of the calls made on a new lifecycle, in whatever order. A stream is
aborted while an abort stands, else active while an activation stands, else inactive. Only where it
is active an activation fails, and changes nothing. Aborts that are cleared leave no trace, and one
event tells of each call that changes the phase. -/
theorem state_of_calls (name : String) (calls : List LifecycleChange) :
    let lifecycle := afterCalls name calls
    (lifecycle.state = .aborted ↔ AbortStands name calls) ∧
      (lifecycle.state = .active ↔ ¬ AbortStands name calls ∧ ActivationStands name calls) ∧
      (lifecycle.state = .inactive ↔ ¬ AbortStands name calls ∧ ¬ ActivationStands name calls) ∧
      (∀ error, lifecycle.activate = .error error ↔
        lifecycle.state = .active ∧ error = .alreadyActivated) ∧
      ((lifecycle.change .activation).value = lifecycle ↔ lifecycle.state = .active) ∧
      (∃ aborts, calls = settled calls ++ List.replicate aborts (.signal .abort)) ∧
      ¬ AbortStands name (settled calls) ∧
      (∀ aborts, afterCalls name
          (calls ++ List.replicate aborts (.signal .abort) ++ [.signal .clearAbort]) =
        afterCalls name (settled calls)) ∧
      ∀ call, (lifecycle.change call).events.length =
        if (lifecycle.change call).value.phase = lifecycle.phase then 0 else 1 := by
  intro lifecycle
  have stands : lifecycle.isAborted = false ↔ ¬ AbortStands name calls := by
    rw [← isAborted_afterCalls, Bool.not_eq_true]
  have activated : lifecycle.isActivated = false ↔ ¬ ActivationStands name calls := by
    rw [← isActivated_afterCalls, Bool.not_eq_true]
  refine ⟨state_eq_aborted.trans isAborted_afterCalls, ?_, ?_, fun _ => activate_eq_error,
    change_activation_eq_self, eq_settled_append calls, settled_resolved name calls,
    afterCalls_cleared name calls, fun _ => length_events_change⟩
  · rw [state_eq_active, stands, isActivated_afterCalls]
  · rw [state_eq_inactive, stands, activated]

/-- A second abort is not there any more when the first is cleared. -/
example : (afterCalls "edge" [.activation, .signal .abort, .signal .abort,
    .signal .clearAbort]).state = .active :=
  rfl

end Lifecycle

end FrameStream
