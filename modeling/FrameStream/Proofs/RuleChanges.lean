import FrameStream.Proofs.TrafficKernel

namespace FrameStream

namespace ShapingRule

def rateClass (rule : ShapingRule) : ShapingObject :=
  .rateClass rule.interface (ShapingCommand.classId rule.port)

def filter (rule : ShapingRule) : ShapingObject :=
  .filter rule.interface (ShapingCommand.priority rule.port)

def objects (rule : ShapingRule) : List ShapingObject :=
  [.root rule.interface, rule.rateClass, rule.filter]

def deletions (rule : ShapingRule) : List ShapingCommand :=
  [.deleteFilter rule.interface rule.port, .deleteClass rule.interface rule.port]

end ShapingRule

namespace Registry

variable {registry : Registry} {interface other : String} {port number : UInt16}
  {rule : ShapingRule} {object : ShapingObject}

@[simp]
theorem contains_insert :
    (registry.insert interface port).contains other number = true ↔
      (other = interface ∧ number = port) ∨ registry.contains other number = true := by
  simp [contains, insert]

@[simp]
theorem contains_erase :
    (registry.erase interface port).contains other number = true ↔
      registry.contains other number = true ∧ ¬ (other = interface ∧ number = port) := by
  simp only [contains, erase, List.contains_iff_mem, List.mem_filter, bne_iff_ne, ne_eq,
    Prod.mk.injEq]

theorem contains_erase_self : (registry.erase interface port).contains interface port = false := by
  simp [← Bool.not_eq_true]

theorem isIdle_iff :
    registry.isIdle interface = true ↔ ∀ port, ¬ registry.contains interface port = true := by
  simp only [isIdle, contains, List.all_eq_true, bne_iff_ne, List.contains_iff_mem]
  exact ⟨fun idle port member => idle _ member rfl,
    fun free rule member same => free rule.2 (same ▸ member)⟩

/-- The objects of the registered rules. -/
def Needs (registry : Registry) : ShapingObject → Prop
  | .root interface => ∃ port, registry.contains interface port = true
  | .rateClass interface identifier =>
    ∃ port, registry.contains interface port = true ∧ identifier = ShapingCommand.classId port
  | .filter interface priority =>
    ∃ port, registry.contains interface port = true ∧ priority = ShapingCommand.priority port

theorem needs_rateClass :
    registry.Needs rule.rateClass ↔ registry.contains rule.interface rule.port = true := by
  simp [Needs, ShapingRule.rateClass, ShapingCommand.classId_inj]

theorem needs_filter :
    registry.Needs rule.filter ↔ registry.contains rule.interface rule.port = true := by
  simp [Needs, ShapingRule.filter, ShapingCommand.priority_inj]

theorem needs_root {interface : String} :
    registry.Needs (.root interface) ↔ ¬ registry.isIdle interface = true := by
  simp [Needs, isIdle_iff]

theorem needs_objects (registered : registry.contains rule.interface rule.port = true) :
    ∀ object ∈ rule.objects, registry.Needs object := by
  simp only [ShapingRule.objects, List.forall_mem_cons]
  exact ⟨⟨rule.port, registered⟩, needs_rateClass.mpr registered,
    needs_filter.mpr registered, nofun⟩

theorem not_needs_of_isIdle {interface : String} (idle : registry.isIdle interface = true)
    (same : object.interface = interface) : ¬ registry.Needs object := by
  have free := isIdle_iff.mp idle
  subst same
  cases object with
  | root interface => exact fun ⟨port, present⟩ => free port present
  | rateClass interface identifier => exact fun ⟨port, present, _⟩ => free port present
  | filter interface priority => exact fun ⟨port, present, _⟩ => free port present

/-- What goes with an object is needed only where the object is. -/
theorem Needs.goesWith {deleted : ShapingObject} (needed : registry.Needs object)
    (goes : object.GoesWith deleted) : registry.Needs deleted := by
  rcases goes with rfl | rfl
  · exact needed
  · exact needs_root.mpr fun idle => not_needs_of_isIdle idle rfl needed

theorem needs_insert :
    (registry.insert rule.interface rule.port).Needs object ↔
      object = rule.filter ∨ object = rule.rateClass ∨ object = .root rule.interface ∨
        registry.Needs object := by
  cases object with
  | root interface => simp [Needs, ShapingRule.filter, ShapingRule.rateClass, exists_or]
  | rateClass interface identifier =>
    simp only [Needs, ShapingRule.filter, ShapingRule.rateClass, contains_insert]
    grind
  | filter interface priority =>
    simp only [Needs, ShapingRule.filter, ShapingRule.rateClass, contains_insert]
    grind

/-- Taking a rule out and putting it back leaves what is needed. -/
theorem needs_insert_erase (present : registry.contains rule.interface rule.port = true) :
    ((registry.erase rule.interface rule.port).insert rule.interface rule.port).Needs object ↔
      registry.Needs object := by
  have same (interface : String) (port : UInt16) :
      ((registry.erase rule.interface rule.port).insert rule.interface rule.port).contains
        interface port = true ↔ registry.contains interface port = true := by
    rw [contains_insert, contains_erase]
    grind
  cases object <;> simp only [Needs, same]

def opening (registry : Registry) (interface : String) : List ShapingCommand :=
  if registry.isIdle interface then [.addRoot interface] else []

def closing (registry : Registry) (interface : String) : List ShapingCommand :=
  if registry.isIdle interface then [.deleteRoot interface] else []

/-- How an installation can go: the registry after it, the commands it runs and its result. -/
inductive Installs (registry : Registry) (shaper : Shaper) (rule : ShapingRule) :
    Registry → List ShapingCommand → Except ShapingError ShapingRule → Prop where
  | unavailable : shaper.isAvailable = false →
      Installs registry shaper rule registry [] (.error (.notSupported "`tc` is not available"))
  | taken : shaper.isAvailable = true → registry.contains rule.interface rule.port = true →
      Installs registry shaper rule registry []
        (.error (.alreadyInstalled rule.interface rule.port))
  | rootFails : registry.isIdle rule.interface = true →
      shaper.works (.addRoot rule.interface) = false →
      Installs registry shaper rule registry [.addRoot rule.interface] (.error error)
  | classFails : registry.contains rule.interface rule.port = false →
      (∀ command ∈ registry.opening rule.interface, shaper.works command = true) →
      shaper.works (.addClass rule.interface rule.port rule.bytesPerSecond) = false →
      Installs registry shaper rule registry
        (registry.opening rule.interface ++
          .addClass rule.interface rule.port rule.bytesPerSecond ::
            registry.closing rule.interface)
        (.error error)
  | filterFails : registry.contains rule.interface rule.port = false →
      (∀ command ∈ registry.opening rule.interface, shaper.works command = true) →
      shaper.works (.addClass rule.interface rule.port rule.bytesPerSecond) = true →
      shaper.works (.addFilter rule.interface rule.port) = false →
      Installs registry shaper rule registry
        (registry.opening rule.interface ++
          .addClass rule.interface rule.port rule.bytesPerSecond ::
            .addFilter rule.interface rule.port :: .deleteClass rule.interface rule.port ::
              registry.closing rule.interface)
        (.error error)
  | installed : registry.contains rule.interface rule.port = false →
      (∀ command ∈ registry.opening rule.interface, shaper.works command = true) →
      shaper.works (.addClass rule.interface rule.port rule.bytesPerSecond) = true →
      shaper.works (.addFilter rule.interface rule.port) = true →
      Installs registry shaper rule (registry.insert rule.interface rule.port)
        (registry.opening rule.interface ++
          [.addClass rule.interface rule.port rule.bytesPerSecond,
            .addFilter rule.interface rule.port])
        (.ok rule)

theorem rollBackRoot_commands (registry : Registry) (shaper : Shaper) (interface : String) :
    (rollBackRoot shaper interface (registry.isIdle interface)).1 =
      registry.closing interface := by
  unfold rollBackRoot closing
  split <;> rfl

theorem install_cases (registry : Registry) (shaper : Shaper) (rule : ShapingRule) :
    Installs registry shaper rule (registry.install shaper rule).registry
      (registry.install shaper rule).commands (registry.install shaper rule).result := by
  unfold install
  dsimp only
  split
  · rename_i unavailable
    exact .unavailable (by simpa using unavailable)
  · rename_i available
    split
    · rename_i present
      exact .taken (by simpa using available) present
    · rename_i absent
      have absent := Bool.eq_false_iff.mpr absent
      split
      · rename_i error failed
        split at failed
        · rename_i idle
          have fails : shaper.works (.addRoot rule.interface) = false := by
            simp at failed
            simp [Shaper.works, failed]
          rw [if_pos idle]
          exact .rootFails idle fails
        · cases failed
      · rename_i opened
        have opens : ∀ command ∈ registry.opening rule.interface, shaper.works command = true := by
          intro command member
          exact Option.isNone_iff_eq_none.mpr (List.findSome?_eq_none_iff.mp opened command member)
        split
        · rename_i failed
          rw [rollBackRoot_commands]
          exact .classFails absent opens (by simp [Shaper.works, failed])
        · rename_i classed
          have classed := Option.isNone_iff_eq_none.mpr classed
          split
          · rename_i failed
            rw [rollBackRoot_commands, List.append_assoc]
            exact .filterFails absent opens classed (by simp [Shaper.works, failed])
          · rename_i filtered
            exact .installed absent opens classed (Option.isNone_iff_eq_none.mpr filtered)

def teardown (registry : Registry) (rule : ShapingRule) : List ShapingCommand :=
  rule.deletions ++ (registry.erase rule.interface rule.port).closing rule.interface

/-- How a removal can go: the registry after it, the commands it runs and its result. -/
inductive Removes (registry : Registry) (shaper : Shaper) (rule : ShapingRule) :
    Registry → List ShapingCommand → Except ShapingError Unit → Prop where
  | absent : registry.contains rule.interface rule.port = false →
      Removes registry shaper rule registry [] (.ok ())
  | removed : registry.contains rule.interface rule.port = true →
      (∀ command ∈ registry.teardown rule, shaper.works command = true) →
      Removes registry shaper rule (registry.erase rule.interface rule.port)
        (registry.teardown rule) (.ok ())
  | failed : registry.contains rule.interface rule.port = true →
      (∃ command ∈ registry.teardown rule, shaper.works command = false) →
      Removes registry shaper rule (registry.erase rule.interface rule.port)
        (registry.teardown rule) (.error error)

theorem remove_cases (registry : Registry) (shaper : Shaper) (rule : ShapingRule) :
    Removes registry shaper rule (registry.remove shaper rule).registry
      (registry.remove shaper rule).commands (registry.remove shaper rule).result := by
  unfold remove
  dsimp only
  split
  · rename_i present
    split
    · rename_i none
      exact .removed present fun command member =>
        Option.isNone_iff_eq_none.mpr (List.filterMap_eq_nil_iff.mp none command member)
    · rename_i first rest failures
      have ⟨command, member, fails⟩ := List.mem_filterMap.mp (failures ▸ List.mem_cons_self)
      exact .failed present ⟨command, member, by simp [Shaper.works, fails]⟩
  · rename_i absent
    exact .absent (Bool.eq_false_iff.mpr absent)

/-- A command that is about a rule and deletes nothing that is needed. -/
def Spares (registry : Registry) (rule : ShapingRule) (command : ShapingCommand) : Prop :=
  command.target ∈ rule.objects ∧
    (command.isDeletion = true → ¬ registry.Needs command.target)

theorem Spares.not_goesWith {command : ShapingCommand} (spares : registry.Spares rule command)
    (deletion : command.isDeletion = true) (needed : registry.Needs object) :
    ¬ object.GoesWith command.target :=
  fun goes => spares.2 deletion (needed.goesWith goes)

theorem opening_spares {remaining : Registry} :
    ∀ command ∈ registry.opening rule.interface, remaining.Spares rule command := by
  unfold opening
  split
  · exact List.forall_mem_singleton.mpr ⟨List.mem_cons_self, nofun⟩
  · exact nofun

theorem closing_spares :
    ∀ command ∈ registry.closing rule.interface, registry.Spares rule command := by
  unfold closing
  split
  · rename_i idle
    exact List.forall_mem_singleton.mpr
      ⟨List.mem_cons_self, fun _ => not_needs_of_isIdle idle rfl⟩
  · exact nofun

section Spares

variable {remaining : Registry}

theorem addClass_spares :
    remaining.Spares rule (.addClass rule.interface rule.port rule.bytesPerSecond) :=
  ⟨.tail _ (.head _), nofun⟩

theorem addFilter_spares : remaining.Spares rule (.addFilter rule.interface rule.port) :=
  ⟨.tail _ (.tail _ (.head _)), nofun⟩

theorem deleteClass_spares (absent : remaining.contains rule.interface rule.port = false) :
    remaining.Spares rule (.deleteClass rule.interface rule.port) := by
  refine ⟨.tail _ (.head _), fun _ needed => ?_⟩
  exact Bool.eq_false_iff.mp absent (needs_rateClass.mp needed)

theorem deleteFilter_spares (absent : remaining.contains rule.interface rule.port = false) :
    remaining.Spares rule (.deleteFilter rule.interface rule.port) := by
  refine ⟨.tail _ (.tail _ (.head _)), fun _ needed => ?_⟩
  exact Bool.eq_false_iff.mp absent (needs_filter.mp needed)

end Spares

variable {shaper : Shaper} {remaining : Registry} {commands : List ShapingCommand}

theorem Installs.spares {result : Except ShapingError ShapingRule}
    (installs : registry.Installs shaper rule remaining commands result) :
    ∀ command ∈ commands, remaining.Spares rule command := by
  cases installs with
  | unavailable | taken => exact nofun
  | rootFails => exact List.forall_mem_singleton.mpr ⟨List.mem_cons_self, nofun⟩
  | classFails =>
    simp only [List.forall_mem_append, List.forall_mem_cons]
    exact ⟨opening_spares, addClass_spares, closing_spares⟩
  | filterFails absent =>
    simp only [List.forall_mem_append, List.forall_mem_cons]
    exact ⟨opening_spares, addClass_spares, addFilter_spares, deleteClass_spares absent,
      closing_spares⟩
  | installed =>
    simp only [List.forall_mem_append, List.forall_mem_cons]
    exact ⟨opening_spares, addClass_spares, addFilter_spares, nofun⟩

theorem Installs.contains_iff {result : Except ShapingError ShapingRule}
    (installs : registry.Installs shaper rule remaining commands result)
    (apart : ¬ (other = rule.interface ∧ number = rule.port)) :
    remaining.contains other number = true ↔ registry.contains other number = true := by
  cases installs <;> simp [apart]

theorem Installs.refused {result : Except ShapingError ShapingRule}
    (installs : registry.Installs shaper rule remaining commands result)
    (available : shaper.isAvailable = true)
    (registered : registry.contains rule.interface rule.port = true) :
    remaining = registry ∧ commands = [] ∧
      result = .error (.alreadyInstalled rule.interface rule.port) := by
  cases installs with
  | taken => exact ⟨rfl, rfl, rfl⟩
  | unavailable unavailable => simp [available] at unavailable
  | rootFails idle => exact absurd registered (isIdle_iff.mp idle _)
  | classFails absent | filterFails absent | installed absent => simp [registered] at absent

theorem Removes.contains_iff {result : Except ShapingError Unit}
    (removes : registry.Removes shaper rule remaining commands result)
    (apart : ¬ (other = rule.interface ∧ number = rule.port)) :
    remaining.contains other number = true ↔ registry.contains other number = true := by
  cases removes <;> simp [apart]

theorem Removes.contains_eq_false {result : Except ShapingError Unit}
    (removes : registry.Removes shaper rule remaining commands result) :
    remaining.contains rule.interface rule.port = false := by
  cases removes with
  | absent unregistered => exact unregistered
  | removed | failed => exact contains_erase_self

theorem isDeletion_of_mem_teardown :
    ∀ command ∈ registry.teardown rule, command.isDeletion = true := by
  unfold teardown closing
  split <;> simp [ShapingRule.deletions, ShapingCommand.isDeletion]

theorem Removes.spares {result : Except ShapingError Unit}
    (removes : registry.Removes shaper rule remaining commands result) :
    ∀ command ∈ commands, remaining.Spares rule command := by
  cases removes with
  | absent => exact nofun
  | removed | failed =>
    simp only [teardown, ShapingRule.deletions, List.forall_mem_append, List.forall_mem_cons]
    exact ⟨⟨deleteFilter_spares contains_erase_self, deleteClass_spares contains_erase_self, nofun⟩,
      closing_spares⟩

end Registry

def Shaper.refusing (commands : List ShapingCommand) : Shaper where
  isAvailable := true
  failure? command := if command ∈ commands then some (.command command.text "refused") else none

inductive ShapingCall where
  | install (rule : ShapingRule)
  | remove (rule : ShapingRule)
  deriving DecidableEq, Repr

/-- A call on one of the shapers; which of its commands fail may differ from turn to turn. -/
structure ShapingTurn where
  shaper : Shaper
  call : ShapingCall

namespace ShapingTurn

def outcome (turn : ShapingTurn) (registry : Registry) : Shaped Unit :=
  match turn.call with
  | .install rule =>
    let shaped := registry.install turn.shaper rule
    { shaped with result := shaped.result.map fun _ => () }
  | .remove rule => registry.remove turn.shaper rule

def attempts (turn : ShapingTurn) (registry : Registry) : List ShapingAttempt :=
  turn.shaper.attempts (turn.outcome registry).commands

end ShapingTurn

/-- What calls lead to: the registry and the commands that were run, in order. -/
structure ShapingLog where
  registry : Registry := {}
  attempts : List ShapingAttempt := []

namespace ShapingLog

/-- What the commands have made of a host on which nothing was shaped. -/
def kernel (log : ShapingLog) : Kernel := Kernel.afterAll ∅ log.attempts

def step (log : ShapingLog) (turn : ShapingTurn) : ShapingLog where
  registry := (turn.outcome log.registry).registry
  attempts := log.attempts ++ turn.attempts log.registry

def run (turns : List ShapingTurn) : ShapingLog := turns.foldl step {}

@[simp]
theorem kernel_step (log : ShapingLog) (turn : ShapingTurn) :
    (log.step turn).kernel = log.kernel.afterAll (turn.attempts log.registry) :=
  List.foldl_append

@[simp]
theorem run_snoc (turns : List ShapingTurn) (turn : ShapingTurn) :
    run (turns ++ [turn]) = (run turns).step turn :=
  List.foldl_append

end ShapingLog

end FrameStream

