import FrameStream.Proofs.RuleChanges

namespace FrameStream

namespace Registry

/-- Two registries hold the same ports of an interface. -/
def AgreesOn (interface : String) (registry other : Registry) : Prop :=
  ∀ port, registry.contains interface port = other.contains interface port

end Registry

structure Shaped.AgreesOn {α : Type} (interface : String) (shaped other : Shaped α) : Prop where
  registry : shaped.registry.AgreesOn interface other.registry
  commands : shaped.commands = other.commands
  events : shaped.events = other.events
  result : shaped.result = other.result

namespace Registry

variable {interface : String} {port : UInt16} {registry other : Registry} {shaper : Shaper}
  {rule : ShapingRule}

theorem AgreesOn.isIdle (agrees : registry.AgreesOn interface other) :
    registry.isIdle interface = other.isIdle interface := by
  rw [Bool.eq_iff_iff, isIdle_iff, isIdle_iff]
  exact forall_congr' fun port => by rw [agrees port]

theorem AgreesOn.insert (agrees : registry.AgreesOn interface other) :
    (registry.insert interface port).AgreesOn interface (other.insert interface port) := by
  intro number
  rw [Bool.eq_iff_iff, contains_insert, contains_insert, agrees number]

theorem AgreesOn.erase (agrees : registry.AgreesOn interface other) :
    (registry.erase interface port).AgreesOn interface (other.erase interface port) := by
  intro number
  rw [Bool.eq_iff_iff, contains_erase, contains_erase, agrees number]

theorem AgreesOn.install (agrees : registry.AgreesOn rule.interface other) :
    (registry.install shaper rule).AgreesOn rule.interface (other.install shaper rule) := by
  unfold Registry.install
  dsimp only
  rw [agrees rule.port, agrees.isIdle]
  split
  · exact ⟨agrees, rfl, rfl, rfl⟩
  · split
    · exact ⟨agrees, rfl, rfl, rfl⟩
    · split
      · exact ⟨agrees, rfl, rfl, rfl⟩
      · split
        · exact ⟨agrees, rfl, rfl, rfl⟩
        · split
          · exact ⟨agrees, rfl, rfl, rfl⟩
          · exact ⟨agrees.insert, rfl, rfl, rfl⟩

theorem AgreesOn.remove (agrees : registry.AgreesOn rule.interface other) :
    (registry.remove shaper rule).AgreesOn rule.interface (other.remove shaper rule) := by
  unfold Registry.remove
  dsimp only
  rw [agrees rule.port, agrees.erase.isIdle]
  split
  · split
    · exact ⟨agrees.erase, rfl, rfl, rfl⟩
    · exact ⟨agrees.erase, rfl, rfl, rfl⟩
  · exact ⟨agrees, rfl, rfl, rfl⟩

end Registry

theorem ShapingCommand.interface_of_mem_objects {command : ShapingCommand} {rule : ShapingRule}
    (member : command.target ∈ rule.objects) : command.interface = rule.interface := by
  cases command <;>
    simp_all [ShapingRule.objects, ShapingRule.rateClass, ShapingRule.filter, target, interface]

def ShapingCall.rule : ShapingCall → ShapingRule
  | install rule | remove rule => rule

/-- What can be seen of a call: the commands it runs, what it reports and its result, which is a
rule where one was to be installed. -/
structure ShapingAnswer where
  commands : List ShapingCommand
  events : List Event
  result : Except ShapingError (Option ShapingRule)
  deriving Repr

namespace ShapingTurn

def interface (turn : ShapingTurn) : String := turn.call.rule.interface

def answer (turn : ShapingTurn) (registry : Registry) : ShapingAnswer :=
  match turn.call with
  | .install rule =>
    let shaped := registry.install turn.shaper rule
    ⟨shaped.commands, shaped.events, shaped.result.map some⟩
  | .remove rule =>
    let shaped := registry.remove turn.shaper rule
    ⟨shaped.commands, shaped.events, shaped.result.map fun _ => none⟩

variable {turn : ShapingTurn} {interface : String} {registry other : Registry}

theorem attempts_eq (turn : ShapingTurn) (registry : Registry) :
    turn.attempts registry = turn.shaper.attempts (turn.answer registry).commands := by
  obtain ⟨shaper, rule | rule⟩ := turn <;> rfl

/-- A call is answered by what is registered on its own interface. -/
theorem answer_congr (agrees : registry.AgreesOn turn.interface other) :
    turn.answer registry = turn.answer other := by
  obtain ⟨shaper, rule | rule⟩ := turn
  · have same : (registry.install shaper rule).AgreesOn rule.interface
        (other.install shaper rule) := agrees.install
    simp [answer, same.commands, same.events, same.result]
  · have same : (registry.remove shaper rule).AgreesOn rule.interface
        (other.remove shaper rule) := agrees.remove
    simp [answer, same.commands, same.events, same.result]

theorem outcome_congr (agrees : registry.AgreesOn turn.interface other) :
    (turn.outcome registry).registry.AgreesOn turn.interface (turn.outcome other).registry := by
  obtain ⟨shaper, rule | rule⟩ := turn
  · exact agrees.install.registry
  · exact agrees.remove.registry

/-- A call leaves the ports of the other interfaces. -/
theorem outcome_elsewhere (elsewhere : turn.interface ≠ interface) :
    (turn.outcome registry).registry.AgreesOn interface registry := by
  intro port
  obtain ⟨shaper, rule | rule⟩ := turn
  · exact Bool.eq_iff_iff.mpr
      ((registry.install_cases shaper rule).contains_iff fun same => elsewhere same.1.symm)
  · exact Bool.eq_iff_iff.mpr
      ((registry.remove_cases shaper rule).contains_iff fun same => elsewhere same.1.symm)

theorem attempts_interface :
    ∀ attempt ∈ turn.attempts registry, attempt.command.interface = turn.interface := by
  intro attempt member
  obtain ⟨command, run, rfl⟩ := List.mem_map.mp member
  obtain ⟨shaper, rule | rule⟩ := turn
  · exact ShapingCommand.interface_of_mem_objects
      ((registry.install_cases shaper rule).spares command run).1
  · exact ShapingCommand.interface_of_mem_objects
      ((registry.remove_cases shaper rule).spares command run).1

end ShapingTurn

namespace ShapingLog

def answers : ShapingLog → List ShapingTurn → List (ShapingTurn × ShapingAnswer)
  | _, [] => []
  | log, turn :: turns => (turn, turn.answer log.registry) :: (log.step turn).answers turns

/-- The commands that name an interface, and whether they worked. -/
def attemptsOn (log : ShapingLog) (interface : String) : List ShapingAttempt :=
  log.attempts.filter (·.command.interface = interface)

/-- One log is what another has of an interface. -/
structure IsPartOn (interface : String) (own log : ShapingLog) : Prop where
  registry : own.registry.AgreesOn interface log.registry
  attempts : own.attempts = log.attemptsOn interface

variable {interface : String} {own log : ShapingLog} {turn : ShapingTurn}

theorem attemptsOn_step (log : ShapingLog) (turn : ShapingTurn) (interface : String) :
    (log.step turn).attemptsOn interface = log.attemptsOn interface ++
      if turn.interface = interface then turn.attempts log.registry else [] := by
  rw [attemptsOn, step, List.filter_append, ← attemptsOn]
  congr 1
  split
  · rename_i here
    refine List.filter_eq_self.mpr fun attempt member => ?_
    simpa [← here] using ShapingTurn.attempts_interface attempt member
  · rename_i elsewhere
    refine List.filter_eq_nil_iff.mpr fun attempt member => ?_
    simpa [ShapingTurn.attempts_interface attempt member] using elsewhere

theorem IsPartOn.step_here (part : own.IsPartOn interface log) (here : turn.interface = interface) :
    (own.step turn).IsPartOn interface (log.step turn) := by
  subst here
  constructor
  · exact ShapingTurn.outcome_congr part.registry
  · rw [attemptsOn_step, if_pos rfl, ← part.attempts, turn.attempts_eq log.registry,
      ← ShapingTurn.answer_congr part.registry, ← turn.attempts_eq]
    rfl

theorem IsPartOn.step_elsewhere (part : own.IsPartOn interface log)
    (elsewhere : turn.interface ≠ interface) : own.IsPartOn interface (log.step turn) := by
  constructor
  · exact fun port => (part.registry port).trans (ShapingTurn.outcome_elsewhere elsewhere port).symm
  · rw [attemptsOn_step, if_neg elsewhere, List.append_nil, part.attempts]

/-- The turns on an interface go as they would by themselves, from logs that agree on it. -/
theorem IsPartOn.turns (part : own.IsPartOn interface log) (turns : List ShapingTurn) :
    let alone := turns.filter (·.interface = interface)
    own.answers alone = (log.answers turns).filter (·.1.interface = interface) ∧
      (alone.foldl step own).IsPartOn interface (turns.foldl step log) := by
  induction turns generalizing own log with
  | nil => exact ⟨rfl, part⟩
  | cons turn turns inductionHypothesis =>
    by_cases here : turn.interface = interface
    · have ⟨answered, parts⟩ := inductionHypothesis (part.step_here here)
      have answer : turn.answer own.registry = turn.answer log.registry :=
        ShapingTurn.answer_congr (here ▸ part.registry)
      simp only [here, decide_true, List.filter_cons_of_pos, answers, answer, answered]
      exact ⟨trivial, parts⟩
    · have ⟨answered, parts⟩ := inductionHypothesis (part.step_elsewhere here)
      simp only [here, decide_false, Bool.false_eq_true, not_false_eq_true,
        List.filter_cons_of_neg, answers, answered]
      exact ⟨trivial, parts⟩

/-- Calls on shapers that share the registry: on each interface they are answered, run commands and
leave ports registered just as if only those on that interface were made, in the same order.
Whatever commands fail, they fail for the same calls. -/
theorem interfaces_isolated (turns : List ShapingTurn) (interface : String) :
    let alone := turns.filter (·.interface = interface)
    answers {} alone = (answers {} turns).filter (·.1.interface = interface) ∧
      (run alone).attempts = (run turns).attemptsOn interface ∧
      ∀ port, (run alone).registry.contains interface port =
        (run turns).registry.contains interface port := by
  intro alone
  have start : IsPartOn interface {} {} := ⟨fun _ => rfl, rfl⟩
  have ⟨answered, parts⟩ := start.turns turns
  exact ⟨answered, parts.attempts, parts.registry⟩

end ShapingLog

end FrameStream
