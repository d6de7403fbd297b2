import FrameStream.Proofs.Ownership
import FrameStream.Proofs.Since

/-!
Which rule a removal takes out. Rules are registered by interface and port, so what a removal finds
is the rule that has this interface and port now, whatever rate the removed rule was installed with.
A run of calls tells which rule that is: what was installed last and has not been removed since.
-/

namespace FrameStream

namespace Registry

variable {registry remaining : Registry} {shaper : Shaper} {rule : ShapingRule}
  {commands : List ShapingCommand} {interface : String} {port : UInt16}

/-- Only an installation that succeeds registers its rule. -/
theorem Installs.contains_iff_ok {result : Except ShapingError ShapingRule}
    (installs : registry.Installs shaper rule remaining commands result) :
    remaining.contains interface port = true ↔
      (result = .ok rule ∧ interface = rule.interface ∧ port = rule.port) ∨
        registry.contains interface port = true := by
  cases installs <;> simp

theorem Installs.contains_eq_false
    (installs : registry.Installs shaper rule remaining commands (.ok rule)) :
    registry.contains rule.interface rule.port = false := by
  cases installs with
  | installed absent => exact absent

theorem Removes.registered {result : Except ShapingError Unit}
    (removes : registry.Removes shaper rule remaining commands result)
    (present : registry.contains rule.interface rule.port = true) :
    remaining = registry.erase rule.interface rule.port ∧ commands = registry.teardown rule := by
  cases removes with
  | absent unregistered => simp [present] at unregistered
  | removed | failed => exact ⟨rfl, rfl⟩

theorem Removes.unregistered {result : Except ShapingError Unit}
    (removes : registry.Removes shaper rule remaining commands result)
    (absent : registry.contains rule.interface rule.port = false) :
    remaining = registry ∧ commands = [] ∧ result = .ok () := by
  cases removes with
  | absent => exact ⟨rfl, rfl, rfl⟩
  | removed present | failed present => simp [absent] at present

end Registry

/-- What an operation on a registry leads to differs from what was before. -/
def Shaped.Acts {α : Type} (shaped : Shaped α) (registry : Registry) : Prop :=
  shaped.commands ≠ [] ∨
    ∃ interface port, shaped.registry.contains interface port ≠ registry.contains interface port

theorem Registry.remove_acts_iff {registry : Registry} {shaper : Shaper} {rule : ShapingRule} :
    (registry.remove shaper rule).Acts registry ↔
      registry.contains rule.interface rule.port = true := by
  have removes := registry.remove_cases shaper rule
  constructor
  · intro acts
    by_contra absent
    have ⟨kept, quiet, _⟩ := removes.unregistered (Bool.eq_false_iff.mpr absent)
    rcases acts with runs | ⟨_, _, changes⟩
    · exact runs quiet
    · exact changes (by rw [kept])
  · intro present
    refine .inl ?_
    rw [(removes.registered present).2]
    exact List.cons_ne_nil _ _

namespace ShapingTurn

/-- After the turns before it, a turn installs a rule. -/
def Installs (rule : ShapingRule) (before : List ShapingTurn) (turn : ShapingTurn) : Prop :=
  turn.call = .install rule ∧
    ((ShapingLog.run before).registry.install turn.shaper rule).result = .ok rule

/-- A turn is to remove the rule of an interface and port, whether or not its commands work. -/
def Removes (key : String × UInt16) (turn : ShapingTurn) : Prop :=
  ∃ rule, turn.call = .remove rule ∧ rule.key = key

section Calls

variable {shaper : Shaper} {rule called : ShapingRule} {before : List ShapingTurn}
  {turn : ShapingTurn} {key : String × UInt16}

@[simp]
theorem installs_install :
    Installs rule before ⟨shaper, .install called⟩ ↔
      called = rule ∧ ((ShapingLog.run before).registry.install shaper rule).result = .ok rule := by
  simp [Installs]

@[simp]
theorem not_installs_remove : ¬ Installs rule before ⟨shaper, .remove called⟩ := by
  simp [Installs]

@[simp]
theorem not_removes_install : ¬ Removes key ⟨shaper, .install called⟩ := by
  simp [Removes]

@[simp]
theorem removes_remove : Removes key ⟨shaper, .remove called⟩ ↔ called.key = key := by
  simp [Removes]

theorem Installs.not_removes (installs : turn.Installs rule before) : ¬ turn.Removes key := by
  obtain ⟨shaper, installed | removed⟩ := turn
  · exact not_removes_install
  · exact absurd installs not_installs_remove

end Calls

end ShapingTurn

namespace ShapingLog

/-- A rule was installed, and what has its interface and port was not removed since. -/
def Stands (turns : List ShapingTurn) (rule : ShapingRule) : Prop :=
  Since (fun before turn => turn.Installs rule before) (fun _ turn => turn.Removes rule.key) turns

/-- The rule of an interface and port was removed, and none was installed for them since. -/
def Gone (turns : List ShapingTurn) (key : String × UInt16) : Prop :=
  Since (fun _ turn => turn.Removes key)
    (fun before turn => ∃ rule : ShapingRule, rule.key = key ∧ turn.Installs rule before) turns

variable {turns : List ShapingTurn} {turn : ShapingTurn} {rule other : ShapingRule}
  {key : String × UInt16}

theorem stands_snoc :
    Stands (turns ++ [turn]) rule ↔
      turn.Installs rule turns ∨ Stands turns rule ∧ ¬ turn.Removes rule.key :=
  since_snoc

theorem Gone.not_stands (gone : Gone turns key) (same : rule.key = key) : ¬ Stands turns rule := by
  induction turns using List.reverseRecOn with
  | nil => exact absurd gone not_since_nil
  | append_singleton turns turn inductionHypothesis =>
    rw [stands_snoc]
    rcases since_snoc.mp gone with removes | ⟨gone, free⟩
    · rintro (installs | ⟨-, kept⟩)
      · exact installs.not_removes removes
      · exact kept (same ▸ removes)
    · rintro (installs | ⟨stands, -⟩)
      · exact free ⟨rule, same, installs⟩
      · exact inductionHypothesis gone stands

/-- What one more turn leaves registered. -/
theorem contains_snoc :
    (run (turns ++ [turn])).registry.contains key.1 key.2 = true ↔
      (∃ rule : ShapingRule, rule.key = key ∧ turn.Installs rule turns) ∨
        (run turns).registry.contains key.1 key.2 = true ∧ ¬ turn.Removes key := by
  rw [run_snoc]
  obtain ⟨shaper, installed | removed⟩ := turn
  · have installs := (run turns).registry.install_cases shaper installed
    simp only [ShapingTurn.installs_install, ShapingTurn.not_removes_install, not_false_eq_true,
      and_true]
    refine installs.contains_iff_ok.trans (or_congr_left ⟨?_, ?_⟩)
    · rintro ⟨ok, interface, port⟩
      exact ⟨installed, Prod.ext interface.symm port.symm, rfl, ok⟩
    · rintro ⟨rule, rfl, rfl, ok⟩
      exact ⟨ok, rfl, rfl⟩
  · have removes := (run turns).registry.remove_cases shaper removed
    simp only [ShapingTurn.not_installs_remove, ShapingTurn.removes_remove, and_false,
      exists_false, false_or]
    by_cases same : removed.key = key
    · subst same
      exact iff_of_false (Bool.eq_false_iff.mp removes.contains_eq_false) fun kept => kept.2 rfl
    · rw [and_iff_left same]
      refine removes.contains_iff fun found => same ?_
      exact Prod.ext found.1.symm found.2.symm

/-- The registry holds the interface and port of the rules that stand. -/
theorem contains_iff_stands :
    (run turns).registry.contains key.1 key.2 = true ↔
      ∃ rule : ShapingRule, rule.key = key ∧ Stands turns rule := by
  induction turns using List.reverseRecOn with
  | nil => exact iff_of_false nofun fun ⟨_, _, stands⟩ => not_since_nil stands
  | append_singleton turns turn inductionHypothesis =>
    rw [contains_snoc, inductionHypothesis]
    constructor
    · rintro (⟨rule, same, installs⟩ | ⟨⟨rule, same, stands⟩, kept⟩)
      · exact ⟨rule, same, stands_snoc.mpr (.inl installs)⟩
      · exact ⟨rule, same, stands_snoc.mpr (.inr ⟨stands, same ▸ kept⟩)⟩
    · rintro ⟨rule, same, stands⟩
      rcases stands_snoc.mp stands with installs | ⟨stands, kept⟩
      · exact .inl ⟨rule, same, installs⟩
      · exact .inr ⟨⟨rule, same, stands⟩, same ▸ kept⟩

/-- Where a rule stands, no other can be installed. -/
theorem Stands.not_installs (stands : Stands turns rule) (same : rule.key = other.key) :
    ¬ turn.Installs other turns := by
  intro installs
  have made := (run turns).registry.install_cases turn.shaper other
  rw [installs.2] at made
  have present := contains_iff_stands.mpr ⟨rule, same, stands⟩
  exact Bool.eq_false_iff.mp made.contains_eq_false present

theorem Stands.eq (stands : Stands turns rule) (stands' : Stands turns other)
    (same : rule.key = other.key) : rule = other := by
  induction turns using List.reverseRecOn with
  | nil => exact absurd stands not_since_nil
  | append_singleton turns turn inductionHypothesis =>
    rcases stands_snoc.mp stands with installs | ⟨stands, -⟩ <;>
      rcases stands_snoc.mp stands' with installs' | ⟨stands', -⟩
    · exact ShapingCall.install.inj (installs.1.symm.trans installs'.1)
    · exact absurd installs (stands'.not_installs same.symm)
    · exact absurd installs' (stands.not_installs same)
    · exact inductionHypothesis stands stands'

theorem stands_removal {shaper : Shaper} {handle : ShapingRule} :
    Stands (turns ++ [⟨shaper, .remove handle⟩]) rule ↔
      Stands turns rule ∧ rule.key ≠ handle.key := by
  rw [stands_snoc, ShapingTurn.removes_remove, eq_comm]
  simp only [ShapingTurn.not_installs_remove, false_or, ne_eq]

/-- A removal takes out the one rule that stands for the interface and port of its handle, with
whatever rate it was installed. Where none stands, as after a removal of it, nothing is done. -/
theorem removal_by_key (turns : List ShapingTurn) (shaper : Shaper) (handle : ShapingRule) :
    let registry := (run turns).registry
    let shaped := registry.remove shaper handle
    (shaped.Acts registry ↔ ∃ rule : ShapingRule, rule.key = handle.key ∧ Stands turns rule) ∧
      (∀ rule other, Stands turns rule → Stands turns other → rule.key = other.key →
        rule = other) ∧
      (Gone turns handle.key → ¬ shaped.Acts registry) ∧
      (¬ shaped.Acts registry →
        shaped.registry = registry ∧ shaped.commands = [] ∧ shaped.result = .ok ()) ∧
      (shaped.Acts registry →
        shaped.registry = registry.erase handle.interface handle.port ∧
          shaped.commands = registry.teardown handle) ∧
      ∀ rule, Stands (turns ++ [⟨shaper, .remove handle⟩]) rule ↔
        Stands turns rule ∧ rule.key ≠ handle.key := by
  intro registry shaped
  have removes := registry.remove_cases shaper handle
  have acts : shaped.Acts registry ↔
      ∃ rule : ShapingRule, rule.key = handle.key ∧ Stands turns rule := by
    rw [← contains_iff_stands]
    exact Registry.remove_acts_iff
  refine ⟨acts, fun _ _ stands stands' same => stands.eq stands' same, ?_, ?_, ?_,
    fun _ => stands_removal⟩
  · intro gone acting
    have ⟨rule, same, stands⟩ := acts.mp acting
    exact gone.not_stands same stands
  · intro idle
    exact removes.unregistered (Bool.eq_false_iff.mpr (mt Registry.remove_acts_iff.mpr idle))
  · intro acting
    exact removes.registered (Registry.remove_acts_iff.mp acting)

private def reinstalled : List ShapingTurn :=
  [⟨.refusing [], .install ⟨"eth0", 5000, 1000⟩⟩, ⟨.refusing [], .remove ⟨"eth0", 5000, 1000⟩⟩] ++
    [⟨.refusing [], .install ⟨"eth0", 5000, 2000⟩⟩]

private theorem reinstalled_stands : Stands reinstalled ⟨"eth0", 5000, 2000⟩ :=
  stands_snoc.mpr (.inl ⟨rfl, rfl⟩)

/-- Removing the first rule once more takes out the second, and after that nothing. -/
theorem removal_by_key_of_reinstallation :
    ∃ turns shaper, ∃ handle rule : ShapingRule, handle ≠ rule ∧
      Stands turns rule ∧ (∀ other, Stands turns other → other.key = rule.key → other = rule) ∧
      ¬ Stands (turns ++ [⟨shaper, .remove handle⟩]) rule ∧
      let registry := (run turns).registry
      let shaped := registry.remove shaper handle
      let again := shaped.registry.remove shaper handle
      shaped.commands = registry.teardown handle ∧ again.commands = [] ∧ again.result = .ok () := by
  let handle : ShapingRule := ⟨"eth0", 5000, 1000⟩
  let rule : ShapingRule := ⟨"eth0", 5000, 2000⟩
  let turn : ShapingTurn := ⟨.refusing [], .remove handle⟩
  have stands : Stands reinstalled rule := reinstalled_stands
  obtain ⟨acts, unique, -, -, removed, left⟩ := removal_by_key reinstalled (.refusing []) handle
  obtain ⟨-, -, gone, quiet, -, -⟩ := removal_by_key (reinstalled ++ [turn]) (.refusing []) handle
  have runs := (removed (acts.mpr ⟨rule, rfl, stands⟩)).2
  have idle := gone (since_snoc.mpr (.inl ⟨handle, rfl, rfl⟩))
  rw [run_snoc] at quiet idle
  refine ⟨reinstalled, .refusing [], handle, rule, by decide, stands, ?_, ?_, runs,
    (quiet idle).2⟩
  · exact fun other stands' same => unique other rule stands' stands same
  · exact fun kept => ((left rule).mp kept).2 rfl

/-- The handle of a rule that was removed takes out the rule installed since. -/
theorem stale_removal_acts :
    ¬ ∀ (turns : List ShapingTurn) (shaper : Shaper) (handle : ShapingRule),
      let registry := (run turns).registry
      let shaped := registry.remove shaper handle
      (shaped.Acts registry → Stands turns handle) ∧
        (¬ Stands turns handle →
          shaped.registry = registry ∧ shaped.commands = [] ∧ shaped.result = .ok ()) := by
  intro claim
  let handle : ShapingRule := ⟨"eth0", 5000, 1000⟩
  have acts : ((run reinstalled).registry.remove (.refusing []) handle).Acts
      (run reinstalled).registry := .inl (by decide)
  have stands := (claim reinstalled (.refusing []) handle).1 acts
  have same : handle = ⟨"eth0", 5000, 2000⟩ := stands.eq reinstalled_stands rfl
  exact absurd same (by decide)

end ShapingLog

end FrameStream
