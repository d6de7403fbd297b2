import FrameStream.Proofs.RuleChanges

namespace FrameStream

variable {attempts others : List ShapingAttempt} {attempt : ShapingAttempt}
  {deletion : ShapingCommand}

/-- A deletion failed, and what it was to delete has not been deleted since. -/
def Unrepaired (attempts : List ShapingAttempt) (deletion : ShapingCommand) : Prop :=
  ∃ before after, attempts = before ++ ⟨deletion, false⟩ :: after ∧
    ∀ attempt ∈ after, ¬ attempt.Deletes deletion.target

theorem unrepaired_snoc :
    Unrepaired (attempts ++ [attempt]) deletion ↔
      attempt = ⟨deletion, false⟩ ∨
        Unrepaired attempts deletion ∧ ¬ attempt.Deletes deletion.target := by
  constructor
  · rintro ⟨before, after, split, spared⟩
    rcases List.eq_nil_or_concat after with rfl | ⟨earlier, last, rfl⟩
    · exact .inl (List.cons.inj (List.append_inj' split rfl).2).1
    · rw [List.concat_eq_append, ← List.cons_append, ← List.append_assoc] at split
      obtain ⟨rfl, same⟩ := List.append_inj' split rfl
      obtain ⟨rfl, -⟩ := List.cons.inj same
      simp only [List.concat_eq_append, List.forall_mem_append, List.forall_mem_singleton] at spared
      exact .inr ⟨⟨before, earlier, rfl, spared.1⟩, spared.2⟩
  · rintro (rfl | ⟨⟨before, after, rfl, spared⟩, kept⟩)
    · exact ⟨attempts, [], rfl, nofun⟩
    · refine ⟨before, after ++ [attempt], by simp, ?_⟩
      exact List.forall_mem_append.mpr ⟨spared, List.forall_mem_singleton.mpr kept⟩

namespace Kernel

variable {kernel : Kernel} {object : ShapingObject}

theorem afterAll_append :
    kernel.afterAll (attempts ++ others) = (kernel.afterAll attempts).afterAll others :=
  List.foldl_append

theorem afterAll_snoc :
    kernel.afterAll (attempts ++ [attempt]) = (kernel.afterAll attempts).after attempt :=
  List.foldl_append

theorem mem_afterAll_of_not_deletes (present : object ∈ kernel)
    (spared : ∀ attempt ∈ attempts, ¬ attempt.Deletes object) :
    object ∈ kernel.afterAll attempts := by
  induction attempts generalizing kernel with
  | nil => exact present
  | cons attempt attempts inductionHypothesis =>
    have ⟨kept, spared⟩ := List.forall_mem_cons.mp spared
    exact inductionHypothesis (mem_after.mpr (.inr ⟨present, kept⟩)) spared

theorem not_mem_afterAll (additions : ∀ attempt ∈ attempts, ¬ attempt.Adds object)
    (deleted : ∃ attempt ∈ attempts, attempt.Deletes object) :
    object ∉ kernel.afterAll attempts := by
  induction attempts using List.reverseRecOn with
  | nil => simp at deleted
  | append_singleton attempts last inductionHypothesis =>
    have ⟨earlier, adds⟩ := List.forall_mem_append.mp additions
    rw [afterAll_snoc, mem_after]
    rintro (added | ⟨present, kept⟩)
    · exact adds last (.head _) added
    · obtain ⟨attempt, member, deletes⟩ := deleted
      rcases List.mem_append.mp member with member | member
      · exact inductionHypothesis earlier ⟨attempt, member, deletes⟩ present
      · exact kept (List.mem_singleton.mp member ▸ deletes)

theorem mem_afterAll_of_adds (adds : attempt.Adds object)
    (spared : ∀ later ∈ others, ¬ later.Deletes object) :
    object ∈ kernel.afterAll (attempts ++ attempt :: others) := by
  rw [afterAll_append]
  have present : object ∈ (kernel.afterAll attempts).after attempt := mem_after.mpr (.inl adds)
  change object ∈ ((kernel.afterAll attempts).after attempt).afterAll others
  exact mem_afterAll_of_not_deletes present spared

end Kernel

/-- The target of a deletion is there just if the deletion is unrepaired. -/
def Tracks (attempts : List ShapingAttempt) (deletion : ShapingCommand) : Prop :=
  deletion.target ∈ Kernel.afterAll ∅ attempts ↔ Unrepaired attempts deletion

/-- An attempt that neither adds the target of a deletion nor is a failure to delete it. -/
def ShapingAttempt.Ignores (attempt : ShapingAttempt) (deletion : ShapingCommand) : Prop :=
  ¬ attempt.Adds deletion.target ∧ attempt ≠ ⟨deletion, false⟩

namespace Tracks

theorem empty : Tracks [] deletion := by
  simp [Tracks, Kernel.afterAll, Unrepaired]

theorem append (tracks : Tracks attempts deletion)
    (ignored : ∀ attempt ∈ others, attempt.Ignores deletion) :
    Tracks (attempts ++ others) deletion := by
  induction others using List.reverseRecOn with
  | nil => simpa using tracks
  | append_singleton others attempt inductionHypothesis =>
    have ⟨ignored, ⟨adds, fails⟩⟩ := List.forall_mem_append.mp ignored |>.imp_right
      List.forall_mem_singleton.mp
    have tracks : _ ↔ _ := inductionHypothesis ignored
    rw [Tracks, ← List.append_assoc, Kernel.afterAll_snoc, Kernel.mem_after, unrepaired_snoc,
      or_iff_right adds, or_iff_right fails, tracks]

/-- Where the target is there, an attempt to delete it decides, whether or not it works. -/
theorem of_deletion (works : Bool) (deletes : deletion.isDeletion = true)
    (present : deletion.target ∈ Kernel.afterAll ∅ attempts)
    (ignored : ∀ attempt ∈ others, attempt.Ignores deletion) :
    Tracks (attempts ++ ⟨deletion, works⟩ :: others) deletion := by
  have decided : Tracks (attempts ++ [⟨deletion, works⟩]) deletion := by
    rw [Tracks, Kernel.afterAll_snoc, Kernel.mem_after, unrepaired_snoc]
    cases works <;>
      simp [ShapingAttempt.Adds, ShapingAttempt.Deletes, ShapingObject.GoesWith, deletes, present]
  simpa using decided.append ignored

end Tracks

/-- A registered rule has its objects; of one that is not, failed deletions tell what is there. -/
structure ShapingLog.AccountsFor (log : ShapingLog) (rule : ShapingRule) : Prop where
  present : log.registry.contains rule.interface rule.port = true →
    ∀ deletion ∈ rule.deletions, deletion.target ∈ log.kernel
  absent : log.registry.contains rule.interface rule.port = false →
    ∀ deletion ∈ rule.deletions, Tracks log.attempts deletion

theorem ShapingRule.needs_deletions {registry : Registry} {rule : ShapingRule} :
    ∀ deletion ∈ rule.deletions, (registry.Needs deletion.target ↔
      registry.contains rule.interface rule.port = true) :=
  List.forall_mem_cons.mpr ⟨Registry.needs_filter,
    List.forall_mem_singleton.mpr Registry.needs_rateClass⟩

theorem ShapingAttempt.Ignores.of_target {command : ShapingCommand} {works : Bool}
    (differs : command.target ≠ deletion.target) : Ignores ⟨command, works⟩ deletion := by
  refine ⟨fun adds => differs adds.2.2.symm, fun same => ?_⟩
  cases same
  exact differs rfl

theorem ShapingAttempt.Ignores.of_failure {command : ShapingCommand}
    (addition : command.isDeletion = false) (deletes : deletion.isDeletion = true) :
    Ignores ⟨command, false⟩ deletion := by
  refine ⟨nofun, fun same => ?_⟩
  cases same
  simp [addition] at deletes

theorem ShapingRule.isDeletion_of_mem_deletions {rule : ShapingRule} :
    ∀ deletion ∈ rule.deletions, deletion.isDeletion = true :=
  List.forall_mem_cons.mpr ⟨rfl, List.forall_mem_singleton.mpr rfl⟩

theorem ShapingRule.target_ne_root {rule : ShapingRule} {interface : String} :
    ∀ deletion ∈ rule.deletions, .root interface ≠ deletion.target :=
  List.forall_mem_cons.mpr ⟨nofun, List.forall_mem_singleton.mpr nofun⟩

theorem Registry.opening_ignores (registry : Registry) (shaper : Shaper) (interface : String)
    {rule : ShapingRule} (member : deletion ∈ rule.deletions) :
    ∀ attempt ∈ shaper.attempts (registry.opening interface), attempt.Ignores deletion := by
  unfold opening
  split
  · exact List.forall_mem_singleton.mpr (.of_target (rule.target_ne_root _ member))
  · exact nofun

theorem Registry.closing_ignores (registry : Registry) (shaper : Shaper) (interface : String)
    {rule : ShapingRule} (member : deletion ∈ rule.deletions) :
    ∀ attempt ∈ shaper.attempts (registry.closing interface), attempt.Ignores deletion := by
  unfold closing
  split
  · exact List.forall_mem_singleton.mpr (.of_target (rule.target_ne_root _ member))
  · exact nofun

namespace ShapingLog.AccountsFor

variable {log : ShapingLog} {shaper : Shaper} {rule other : ShapingRule} {remaining : Registry}
  {commands : List ShapingCommand}

/-- The rate of a rule plays no part. -/
theorem congr (accounts : log.AccountsFor rule)
    (same : rule.interface = other.interface ∧ rule.port = other.port) :
    log.AccountsFor other where
  present := by simpa [ShapingRule.deletions, same] using accounts.present
  absent := by simpa [ShapingRule.deletions, same] using accounts.absent

theorem of_ignored (accounts : log.AccountsFor other)
    (spares : ∀ command ∈ commands, remaining.Spares rule command)
    (ignored : ∀ deletion ∈ other.deletions, ∀ attempt ∈ shaper.attempts commands,
      attempt.Ignores deletion)
    (same : remaining.contains other.interface other.port = true ↔
      log.registry.contains other.interface other.port = true) :
    AccountsFor ⟨remaining, log.attempts ++ shaper.attempts commands⟩ other where
  present registered deletion member := by
    have needed := (ShapingRule.needs_deletions deletion member).mpr registered
    rw [kernel, Kernel.afterAll_append]
    refine Kernel.mem_afterAll_of_not_deletes
      (accounts.present (same.mp registered) deletion member) ?_
    intro attempt attempted ⟨_, deletes, goes⟩
    obtain ⟨command, run, rfl⟩ := List.mem_map.mp attempted
    exact (spares command run).not_goesWith deletes needed goes
  absent unregistered deletion member :=
    have unregistered := Bool.eq_false_iff.mpr (mt same.mpr (Bool.eq_false_iff.mp unregistered))
    (accounts.absent unregistered deletion member).append (ignored deletion member)

theorem of_other (accounts : log.AccountsFor other)
    (spares : ∀ command ∈ commands, remaining.Spares rule command)
    (apart : ¬ (other.interface = rule.interface ∧ other.port = rule.port))
    (same : remaining.contains other.interface other.port = true ↔
      log.registry.contains other.interface other.port = true) :
    AccountsFor ⟨remaining, log.attempts ++ shaper.attempts commands⟩ other := by
  refine accounts.of_ignored spares ?_ same
  have foreign : ∀ deletion ∈ other.deletions, deletion.target ∉ rule.objects := by
    simp [ShapingRule.deletions, ShapingRule.objects, ShapingRule.rateClass, ShapingRule.filter,
      ShapingCommand.target, ShapingCommand.classId_inj, ShapingCommand.priority_inj, apart]
  intro deletion member attempt attempted
  obtain ⟨command, run, rfl⟩ := List.mem_map.mp attempted
  refine .of_target fun shared => foreign deletion member ?_
  exact shared ▸ (spares command run).1

theorem installs {result : Except ShapingError ShapingRule} (accounts : log.AccountsFor rule)
    (installs : log.registry.Installs shaper rule remaining commands result) :
    AccountsFor ⟨remaining, log.attempts ++ shaper.attempts commands⟩ rule := by
  have spares := installs.spares
  cases installs with
  | unavailable | taken => exact accounts.of_ignored spares nofun Iff.rfl
  | rootFails =>
    refine accounts.of_ignored spares (fun deletion member => ?_) Iff.rfl
    exact List.forall_mem_singleton.mpr (.of_target (rule.target_ne_root _ member))
  | classFails absent opens fails =>
    refine accounts.of_ignored spares (fun deletion member => ?_) Iff.rfl
    simp only [Shaper.attempts, List.map_append, List.map_cons, fails, List.forall_mem_append,
      List.forall_mem_cons]
    exact ⟨log.registry.opening_ignores _ _ member,
      .of_failure rfl (rule.isDeletion_of_mem_deletions _ member),
      log.registry.closing_ignores _ _ member⟩
  | filterFails absent opens classed fails =>
    refine ⟨fun present => by simp [absent] at present, fun _ => ?_⟩
    refine List.forall_mem_cons.mpr ⟨?_, List.forall_mem_singleton.mpr ?_⟩
    · refine (accounts.absent absent _ (.head _)).append ?_
      simp only [Shaper.attempts, List.map_append, List.map_cons, classed, fails,
        List.forall_mem_append, List.forall_mem_cons]
      exact ⟨log.registry.opening_ignores _ _ (.head _), .of_target nofun, .of_failure rfl rfl,
        .of_target nofun, log.registry.closing_ignores _ _ (.head _)⟩
    · have present : (ShapingCommand.deleteClass rule.interface rule.port).target ∈
          Kernel.afterAll ∅ ((log.attempts ++
            shaper.attempts (log.registry.opening rule.interface)) ++
              [⟨.addClass rule.interface rule.port rule.bytesPerSecond, true⟩,
                ⟨.addFilter rule.interface rule.port, false⟩]) :=
        Kernel.mem_afterAll_of_adds ⟨rfl, rfl, rfl⟩ (List.forall_mem_singleton.mpr nofun)
      have tracks := Tracks.of_deletion (shaper.works (.deleteClass rule.interface rule.port)) rfl
        present (log.registry.closing_ignores shaper rule.interface (.tail _ (.head _)))
      simpa [Shaper.attempts, classed, fails] using tracks
  | installed absent opens classed filtered =>
    refine ⟨fun _ => ?_, fun absent => by simp [← Bool.not_eq_true] at absent⟩
    simp only [kernel, Shaper.attempts, List.map_append, List.map_cons, List.map_nil, classed,
      filtered, ← List.append_assoc]
    refine List.forall_mem_cons.mpr ⟨?_, List.forall_mem_singleton.mpr ?_⟩
    · rw [List.append_cons]
      exact Kernel.mem_afterAll_of_adds ⟨rfl, rfl, rfl⟩ nofun
    · exact Kernel.mem_afterAll_of_adds ⟨rfl, rfl, rfl⟩ (List.forall_mem_singleton.mpr nofun)

theorem removes {result : Except ShapingError Unit} (accounts : log.AccountsFor rule)
    (removes : log.registry.Removes shaper rule remaining commands result) :
    AccountsFor ⟨remaining, log.attempts ++ shaper.attempts commands⟩ rule := by
  have spares := removes.spares
  cases removes with
  | absent => exact accounts.of_ignored spares nofun Iff.rfl
  | removed registered | failed registered =>
    refine ⟨fun present => by simp at present, fun _ => ?_⟩
    have ⟨filtered, classed⟩ := List.forall_mem_cons.mp (accounts.present registered)
    have classed := List.forall_mem_singleton.mp classed
    have closing {deletion : ShapingCommand} (member : deletion ∈ rule.deletions) :=
      (log.registry.erase rule.interface rule.port).closing_ignores shaper rule.interface member
    refine List.forall_mem_cons.mpr ⟨?_, List.forall_mem_singleton.mpr ?_⟩
    · exact Tracks.of_deletion (shaper.works _) rfl filtered
        (List.forall_mem_cons.mpr ⟨.of_target nofun, closing (.head _)⟩)
    · have kept : (ShapingCommand.deleteClass rule.interface rule.port).target ∈
          Kernel.afterAll ∅ (log.attempts ++
            shaper.attempts [.deleteFilter rule.interface rule.port]) := by
        rw [Kernel.afterAll_append]
        refine Kernel.mem_afterAll_of_not_deletes classed (List.forall_mem_singleton.mpr ?_)
        rintro ⟨-, -, same | same⟩ <;> cases same
      have tracks := Tracks.of_deletion (shaper.works (.deleteClass rule.interface rule.port)) rfl
        kept (closing (.tail _ (.head _)))
      simpa [Shaper.attempts, Registry.teardown, ShapingRule.deletions] using tracks

end ShapingLog.AccountsFor

namespace ShapingLog

theorem AccountsFor.step {log : ShapingLog} {rule : ShapingRule} (accounts : log.AccountsFor rule)
    (turn : ShapingTurn) : (log.step turn).AccountsFor rule := by
  obtain ⟨shaper, call⟩ := turn
  cases call with
  | install installed =>
    have installs := log.registry.install_cases shaper installed
    by_cases same : rule.interface = installed.interface ∧ rule.port = installed.port
    · exact (accounts.congr same).installs installs |>.congr ⟨same.1.symm, same.2.symm⟩
    · exact accounts.of_other installs.spares same (installs.contains_iff same)
  | remove removed =>
    have removes := log.registry.remove_cases shaper removed
    by_cases same : rule.interface = removed.interface ∧ rule.port = removed.port
    · exact (accounts.congr same).removes removes |>.congr ⟨same.1.symm, same.2.symm⟩
    · exact accounts.of_other removes.spares same (removes.contains_iff same)

/-- A removal that succeeds and has something to remove deletes it. -/
theorem removes_deletes {registry remaining : Registry} {shaper : Shaper} {rule : ShapingRule}
    {commands : List ShapingCommand} (kernel : Kernel)
    (removes : registry.Removes shaper rule remaining commands (.ok ()))
    (registered : registry.contains rule.interface rule.port = true) :
    ∀ deletion ∈ rule.deletions, deletion.target ∉ kernel.afterAll (shaper.attempts commands) := by
  cases removes with
  | absent unregistered => simp [registered] at unregistered
  | removed _ works =>
    intro deletion member
    have run : deletion ∈ registry.teardown rule := List.mem_append_left _ member
    refine Kernel.not_mem_afterAll ?_ ⟨_, List.mem_map_of_mem run, works deletion run,
      Registry.isDeletion_of_mem_teardown deletion run, .inl rfl⟩
    intro attempt attempted ⟨_, addition, _⟩
    obtain ⟨command, run, rfl⟩ := List.mem_map.mp attempted
    simp [Registry.isDeletion_of_mem_teardown command run] at addition

theorem run_accountsFor (turns : List ShapingTurn) (rule : ShapingRule) :
    (run turns).AccountsFor rule := by
  induction turns using List.reverseRecOn with
  | nil => exact ⟨nofun, fun _ _ _ => Tracks.empty⟩
  | append_singleton turns turn inductionHypothesis =>
    rw [run_snoc]
    exact inductionHypothesis.step turn

/-- After a removal that succeeds, class and filter of the rule are there just if a deletion of them
failed, in whatever call, and they were not deleted since. A registered rule is gone. -/
theorem removed_rule_remains_iff (turns : List ShapingTurn) (shaper : Shaper) (rule : ShapingRule)
    (removed : ((run turns).registry.remove shaper rule).result = .ok ()) :
    let log := (run turns).step ⟨shaper, .remove rule⟩
    (rule.rateClass ∈ log.kernel ↔
        Unrepaired log.attempts (.deleteClass rule.interface rule.port)) ∧
      (rule.filter ∈ log.kernel ↔
        Unrepaired log.attempts (.deleteFilter rule.interface rule.port)) ∧
      ((run turns).registry.contains rule.interface rule.port = true →
        rule.rateClass ∉ log.kernel ∧ rule.filter ∉ log.kernel) := by
  intro log
  have removes := (run turns).registry.remove_cases shaper rule
  have tracks := ((run_accountsFor turns rule).removes removes).absent removes.contains_eq_false
  refine ⟨tracks _ (.tail _ (.head _)), tracks _ (.head _), fun registered => ?_⟩
  rw [removed] at removes
  have deleted := removes_deletes (run turns).kernel removes registered
  rw [kernel_step]
  exact ⟨deleted _ (.tail _ (.head _)), deleted _ (.head _)⟩

private def neighbours : List ShapingTurn :=
  [⟨.refusing [], .install ⟨"eth0", 5000, 1000⟩⟩, ⟨.refusing [], .install ⟨"eth0", 5001, 1000⟩⟩]

/-- The filter could not be deleted when the rule was taken out of the registry. -/
theorem removed_rule_remains_of_refusal :
    ∃ turns shaper rule, ((run turns).registry.remove shaper rule).result = .ok () ∧
      let log := (run turns).step ⟨shaper, .remove rule⟩
      Unrepaired log.attempts (.deleteFilter rule.interface rule.port) ∧
        ¬ Unrepaired log.attempts (.deleteClass rule.interface rule.port) := by
  let rule : ShapingRule := ⟨"eth0", 5000, 1000⟩
  let turns := neighbours ++ [⟨.refusing [.deleteFilter "eth0" 5000], .remove rule⟩]
  obtain ⟨classed, filtered, -⟩ := removed_rule_remains_iff turns (.refusing []) rule rfl
  refine ⟨turns, .refusing [], rule, rfl, filtered.mp ?_, mt classed.mpr ?_⟩
  · decide +kernel
  · decide +kernel

/-- After a removal that failed at every step, the second removal succeeds without a command, and
class and filter stay. -/
theorem second_removal_leaves_rule :
    ¬ ∀ (turns : List ShapingTurn) (shaper : Shaper) (rule : ShapingRule),
      ((run turns).registry.remove shaper rule).result = .ok () →
        let log := (run turns).step ⟨shaper, .remove rule⟩
        rule.rateClass ∉ log.kernel ∧ rule.filter ∉ log.kernel := by
  intro claim
  let rule : ShapingRule := ⟨"eth0", 5000, 1000⟩
  let turns := neighbours ++ [⟨.refusing rule.deletions, .remove rule⟩]
  have present : rule.rateClass ∈ ((run turns).step ⟨.refusing [], .remove rule⟩).kernel := by
    decide +kernel
  exact (claim turns (.refusing []) rule rfl).1 present

end ShapingLog

end FrameStream
