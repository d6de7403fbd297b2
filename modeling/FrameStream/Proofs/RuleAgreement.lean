import FrameStream.Proofs.RuleChanges

namespace FrameStream

/-- A kernel that has the objects of the registered rules and no others. -/
def Kernel.Matches (kernel : Kernel) (registry : Registry) : Prop :=
  ∀ object, object ∈ kernel ↔ registry.Needs object

/-- No deletion failed. -/
def DeletionsWork (attempts : List ShapingAttempt) : Prop :=
  ∀ attempt ∈ attempts, attempt.command.isDeletion = true → attempt.works = true

namespace Kernel

/-- The attempts make sense where they are run, and lead from one kernel to another. -/
def Leads (first : Kernel) (attempts : List ShapingAttempt) (last : Kernel) : Prop :=
  first.AdmitsAll attempts ∧ first.afterAll attempts = last

namespace Leads

variable {first middle last : Kernel} {attempts others : List ShapingAttempt}
  {command : ShapingCommand}

theorem nil : Leads first [] first := ⟨trivial, rfl⟩

theorem single {attempt : ShapingAttempt} (admitted : first.Admits attempt.command)
    (result : first.after attempt = last) : Leads first [attempt] last :=
  ⟨⟨admitted, trivial⟩, result⟩

theorem append (start : Leads first attempts middle) (rest : Leads middle others last) :
    Leads first (attempts ++ others) last := by
  induction attempts generalizing first with
  | nil =>
    obtain ⟨-, rfl⟩ := start
    exact rest
  | cons attempt attempts inductionHypothesis =>
    obtain ⟨⟨admitted, admits⟩, result⟩ := start
    have ⟨admitsRest, resultRest⟩ := inductionHypothesis ⟨admits, result⟩
    exact ⟨⟨admitted, admitsRest⟩, resultRest⟩

theorem fails (admitted : first.Admits command) : Leads first [⟨command, false⟩] first :=
  single admitted rfl

theorem adds (addition : command.isDeletion = false) (admitted : first.Admits command) :
    Leads first [⟨command, true⟩] (insert command.target first) :=
  single admitted (by simp [after, addition])

/-- Deleting what was added to a kernel without anything under it gives that kernel back. -/
theorem deletes (deletion : command.isDeletion = true)
    (fresh : ∀ object ∈ first, ¬ object.GoesWith command.target) :
    Leads (insert command.target first) [⟨command, true⟩] first := by
  refine single ?_ ?_
  · rw [Admits, if_pos deletion]
    refine ⟨Finset.mem_insert_self .., fun object member goes => ?_⟩
    exact (Finset.mem_insert.mp member).resolve_right fun old => fresh object old goes
  · ext object
    simp only [after, deletion, if_true, Finset.mem_filter, Finset.mem_insert]
    constructor
    · rintro ⟨rfl | old, stays⟩
      · exact absurd (.inl rfl) stays
      · exact old
    · exact fun old => ⟨.inr old, fresh object old⟩

end Leads

/-- A kernel to which the objects of a rule are added. -/
def withRule (kernel : Kernel) (rule : ShapingRule) : Kernel :=
  insert rule.filter (insert rule.rateClass (insert (.root rule.interface) kernel))

namespace Matches

variable {kernel : Kernel} {registry : Registry} {shaper : Shaper} {rule : ShapingRule}

theorem withRule (matching : kernel.Matches registry) :
    (kernel.withRule rule).Matches (registry.insert rule.interface rule.port) := by
  intro object
  rw [Registry.needs_insert, Kernel.withRule, Finset.mem_insert, Finset.mem_insert,
    Finset.mem_insert, matching object]

theorem opening (matching : kernel.Matches registry)
    (works : ∀ command ∈ registry.opening rule.interface, shaper.works command = true) :
    kernel.Leads (shaper.attempts (registry.opening rule.interface))
      (insert (.root rule.interface) kernel) := by
  unfold Registry.opening at works ⊢
  by_cases idle : registry.isIdle rule.interface = true
  · rw [if_pos idle] at works ⊢
    simp only [Shaper.attempts, List.map_cons, List.map_nil, works _ List.mem_cons_self]
    refine Leads.adds rfl ⟨?_, .inl rfl⟩
    rw [matching]
    exact Registry.not_needs_of_isIdle idle rfl
  · rw [if_neg idle, Finset.insert_eq_of_mem ((matching _).mpr (Registry.needs_root.mpr idle))]
    exact Leads.nil

theorem closing (matching : kernel.Matches registry)
    (deletions : DeletionsWork (shaper.attempts (registry.closing rule.interface))) :
    Leads (insert (.root rule.interface) kernel)
      (shaper.attempts (registry.closing rule.interface)) kernel := by
  unfold Registry.closing at deletions ⊢
  by_cases idle : registry.isIdle rule.interface = true
  · rw [if_pos idle] at deletions ⊢
    have undone : shaper.works (.deleteRoot rule.interface) = true := deletions _ (.head _) rfl
    simp only [Shaper.attempts, List.map_cons, List.map_nil, undone]
    refine Leads.deletes rfl fun object member goes => ?_
    have same : object.interface = rule.interface := by
      rcases goes with rfl | same
      · rfl
      · exact (ShapingObject.root.inj same).symm
    exact Registry.not_needs_of_isIdle idle same ((matching object).mp member)
  · rw [if_neg idle, Finset.insert_eq_of_mem ((matching _).mpr (Registry.needs_root.mpr idle))]
    exact Leads.nil

end Matches

theorem admits_addition {kernel : Kernel} {command : ShapingCommand}
    (addition : command.isDeletion = false) (absent : command.target ∉ kernel)
    (rooted : .root command.interface ∈ kernel) : kernel.Admits command := by
  rw [Admits, if_neg (by simp [addition])]
  exact ⟨absent, .inr rooted⟩

/-- Only with a root goes more than is deleted. -/
theorem fresh_of_absent {kernel : Kernel} {target : ShapingObject}
    (proper : ∀ interface, target ≠ .root interface) (absent : target ∉ kernel) :
    ∀ object ∈ kernel, ¬ object.GoesWith target := by
  rintro object member (rfl | same)
  · exact absent member
  · exact proper _ same

section Rules

variable {kernel : Kernel} {registry : Registry} {shaper : Shaper} {rule : ShapingRule}

theorem Matches.rateClass_absent (matching : kernel.Matches registry)
    (absent : registry.contains rule.interface rule.port = false) :
    rule.rateClass ∉ insert (ShapingObject.root rule.interface) kernel := by
  simp only [Finset.mem_insert, matching _, Registry.needs_rateClass, absent, not_or]
  exact ⟨nofun, nofun⟩

theorem Matches.filter_absent (matching : kernel.Matches registry)
    (absent : registry.contains rule.interface rule.port = false) :
    rule.filter ∉ insert rule.rateClass (insert (ShapingObject.root rule.interface) kernel) := by
  simp only [Finset.mem_insert, matching _, Registry.needs_filter, absent, not_or]
  exact ⟨nofun, nofun, nofun⟩

theorem Matches.admits_addClass (matching : kernel.Matches registry)
    (absent : registry.contains rule.interface rule.port = false) :
    Admits (insert (.root rule.interface) kernel)
      (.addClass rule.interface rule.port rule.bytesPerSecond) :=
  admits_addition rfl (matching.rateClass_absent absent) (Finset.mem_insert_self ..)

theorem Matches.admits_addFilter (matching : kernel.Matches registry)
    (absent : registry.contains rule.interface rule.port = false) :
    Admits (insert rule.rateClass (insert (.root rule.interface) kernel))
      (.addFilter rule.interface rule.port) :=
  admits_addition rfl (matching.filter_absent absent)
    (Finset.mem_insert_of_mem (Finset.mem_insert_self ..))

theorem Matches.deletes_class (matching : kernel.Matches registry)
    (absent : registry.contains rule.interface rule.port = false) :
    Leads (insert rule.rateClass (insert (.root rule.interface) kernel))
      [⟨.deleteClass rule.interface rule.port, true⟩]
      (insert (.root rule.interface) kernel) :=
  Leads.deletes rfl (fresh_of_absent nofun (matching.rateClass_absent absent))

/-- An installation leads to the kernel with the rule, or changes nothing. -/
theorem Matches.installs {remaining : Registry} {commands : List ShapingCommand}
    {result : Except ShapingError ShapingRule} (matching : kernel.Matches registry)
    (deletions : DeletionsWork (shaper.attempts commands))
    (installs : registry.Installs shaper rule remaining commands result) :
    ∃ last, kernel.Leads (shaper.attempts commands) last ∧ last.Matches remaining ∧
      ∀ error, result = .error error → last = kernel ∧ remaining = registry := by
  cases installs with
  | unavailable | taken => exact ⟨kernel, .nil, matching, fun _ _ => ⟨rfl, rfl⟩⟩
  | rootFails idle fails =>
    refine ⟨kernel, ?_, matching, fun _ _ => ⟨rfl, rfl⟩⟩
    have absent : ShapingObject.root rule.interface ∉ kernel := by
      rw [matching]
      exact Registry.not_needs_of_isIdle idle rfl
    simp only [Shaper.attempts, List.map_cons, List.map_nil, fails]
    exact Leads.fails ⟨absent, .inl rfl⟩
  | classFails absent opens fails =>
    refine ⟨kernel, ?_, matching, fun _ _ => ⟨rfl, rfl⟩⟩
    simp only [Shaper.attempts, List.map_append, List.map_cons, fails, DeletionsWork,
      List.forall_mem_append, List.forall_mem_cons] at deletions ⊢
    obtain ⟨-, -, closing⟩ := deletions
    refine (matching.opening opens).append ?_
    exact (Leads.fails (matching.admits_addClass absent)).append (matching.closing closing)
  | filterFails absent opens classed fails =>
    refine ⟨kernel, ?_, matching, fun _ _ => ⟨rfl, rfl⟩⟩
    simp only [Shaper.attempts, List.map_append, List.map_cons, classed, fails, DeletionsWork,
      List.forall_mem_append, List.forall_mem_cons] at deletions ⊢
    obtain ⟨-, -, -, undone, closing⟩ := deletions
    rw [undone rfl]
    refine (matching.opening opens).append ?_
    refine (Leads.adds rfl (matching.admits_addClass absent)).append ?_
    refine (Leads.fails (matching.admits_addFilter absent)).append ?_
    exact (matching.deletes_class absent).append (matching.closing closing)
  | installed absent opens classed filtered =>
    refine ⟨kernel.withRule rule, ?_, matching.withRule, nofun⟩
    simp only [Shaper.attempts, List.map_append, List.map_cons, List.map_nil, classed, filtered]
    refine (matching.opening opens).append ?_
    refine (Leads.adds rfl (matching.admits_addClass absent)).append ?_
    exact Leads.adds rfl (matching.admits_addFilter absent)

theorem Matches.exists_withRule (matching : kernel.Matches registry)
    (present : registry.contains rule.interface rule.port = true) :
    ∃ earlier : Kernel, earlier.Matches (registry.erase rule.interface rule.port) ∧
      kernel = earlier.withRule rule := by
  classical
  have earlier : Matches
      (kernel.filter (registry.erase rule.interface rule.port).Needs)
      (registry.erase rule.interface rule.port) := by
    intro object
    rw [Finset.mem_filter, matching, and_iff_right_iff_imp]
    intro needed
    rw [← Registry.needs_insert_erase present, Registry.needs_insert]
    exact .inr (.inr (.inr needed))
  refine ⟨_, earlier, ?_⟩
  ext object
  rw [earlier.withRule object, Registry.needs_insert_erase present, matching]

/-- A removal takes back what the installation had added. -/
theorem Matches.removes {remaining : Registry} {commands : List ShapingCommand}
    {result : Except ShapingError Unit} (matching : kernel.Matches registry)
    (deletions : DeletionsWork (shaper.attempts commands))
    (removes : registry.Removes shaper rule remaining commands result) :
    ∃ last, kernel.Leads (shaper.attempts commands) last ∧ last.Matches remaining := by
  cases removes with
  | absent => exact ⟨kernel, .nil, matching⟩
  | removed present | failed present =>
    obtain ⟨earlier, former, rfl⟩ := matching.exists_withRule present
    refine ⟨earlier, ?_, former⟩
    have absent : (registry.erase rule.interface rule.port).contains rule.interface rule.port
        = false := Registry.contains_erase_self
    have deletesFilter : Leads (earlier.withRule rule)
        [⟨.deleteFilter rule.interface rule.port, true⟩]
        (insert rule.rateClass (insert (.root rule.interface) earlier)) :=
      Leads.deletes rfl (fresh_of_absent nofun (former.filter_absent absent))
    simp only [Shaper.attempts, Registry.teardown, ShapingRule.deletions, List.map_append,
      List.map_cons, List.map_nil, DeletionsWork, List.forall_mem_append, List.forall_mem_cons]
      at deletions ⊢
    obtain ⟨⟨filtered, classed, -⟩, closing⟩ := deletions
    rw [filtered rfl, classed rfl]
    exact (deletesFilter.append (former.deletes_class absent)).append (former.closing closing)

end Rules

end Kernel

namespace ShapingTurn

variable {registry : Registry} {kernel : Kernel}

theorem leads (turn : ShapingTurn) (deletions : DeletionsWork (turn.attempts registry))
    (matching : kernel.Matches registry) :
    ∃ last, kernel.Leads (turn.attempts registry) last ∧
      last.Matches (turn.outcome registry).registry ∧
      ∀ rule error, turn.call = .install rule → (turn.outcome registry).result = .error error →
        last = kernel ∧ (turn.outcome registry).registry = registry := by
  obtain ⟨shaper, call⟩ := turn
  cases call with
  | install rule =>
    have ⟨last, leads, agrees, unchanged⟩ :=
      matching.installs deletions (registry.install_cases shaper rule)
    refine ⟨last, leads, agrees, fun _ error _ failed => ?_⟩
    cases result : (registry.install shaper rule).result with
    | error error => exact unchanged error result
    | ok installed => simp [outcome, result, Except.map] at failed
  | remove rule =>
    have ⟨last, leads, agrees⟩ := matching.removes deletions (registry.remove_cases shaper rule)
    exact ⟨last, leads, agrees, nofun⟩

end ShapingTurn

namespace ShapingLog

theorem run_matches {turns : List ShapingTurn} (deletions : DeletionsWork (run turns).attempts) :
    (run turns).kernel.Matches (run turns).registry := by
  induction turns using List.reverseRecOn with
  | nil =>
    intro object
    cases object <;> simp [run, kernel, Kernel.afterAll, Registry.Needs, Registry.contains]
  | append_singleton turns turn inductionHypothesis =>
    rw [run_snoc] at deletions ⊢
    obtain ⟨earlier, latest⟩ := List.forall_mem_append.mp deletions
    obtain ⟨last, ⟨-, result⟩, agrees, -⟩ := turn.leads latest (inductionHypothesis earlier)
    rw [kernel_step, result]
    exact agrees

/-- As long as no deletion has failed, the kernel has the objects of the registered rules and no
others after every call, every command makes sense where it is run, and an installation that fails
changes neither the kernel nor the registry. -/
theorem kernel_matches_registry (turns : List ShapingTurn) (turn : ShapingTurn)
    (deletions : DeletionsWork (run (turns ++ [turn])).attempts) :
    let log := run turns
    let next := log.step turn
    next.kernel.Matches next.registry ∧
      log.kernel.AdmitsAll (turn.attempts log.registry) ∧
      ∀ rule error, turn.call = .install rule →
        (turn.outcome log.registry).result = .error error →
          next.kernel = log.kernel ∧ next.registry = log.registry := by
  intro log next
  have agrees : next.kernel.Matches next.registry := by
    have agrees := run_matches deletions
    rwa [run_snoc] at agrees
  rw [run_snoc] at deletions
  obtain ⟨earlier, latest⟩ := List.forall_mem_append.mp deletions
  obtain ⟨last, ⟨admits, result⟩, -, unchanged⟩ := turn.leads latest (run_matches earlier)
  have result : next.kernel = last := (kernel_step log turn).trans result
  exact ⟨agrees, admits, fun rule error call failed => result ▸ unchanged rule error call failed⟩

/-- A rule whose filter is refused leaves the rule beside it. -/
theorem kernel_matches_registry_beside_rule :
    ∃ (turns : List ShapingTurn) (turn : ShapingTurn),
      DeletionsWork (run (turns ++ [turn])).attempts ∧
        (turn.outcome (run turns).registry).commands =
          [.addClass "eth0" 7000 2000, .addFilter "eth0" 7000, .deleteClass "eth0" 7000] ∧
        (run turns).kernel.AdmitsAll (turn.attempts (run turns).registry) ∧
        ((run turns).step turn).kernel =
          {.root "eth0", .rateClass "eth0" "1:1f90", .filter "eth0" "8080"} := by
  let turns : List ShapingTurn := [⟨.refusing [], .install ⟨"eth0", 8080, 1000⟩⟩]
  let turn : ShapingTurn := ⟨.refusing [.addFilter "eth0" 7000], .install ⟨"eth0", 7000, 2000⟩⟩
  have deletions : DeletionsWork (run (turns ++ [turn])).attempts := by
    unfold DeletionsWork
    decide
  obtain ⟨-, admits, unchanged⟩ := kernel_matches_registry turns turn deletions
  refine ⟨turns, turn, deletions, rfl, admits, ?_⟩
  rw [(unchanged _ _ rfl rfl).1]
  decide +kernel

end ShapingLog

end FrameStream
