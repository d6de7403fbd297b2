import FrameStream.Pacing.Limiter
import FrameStream.Proofs.RuleChanges

namespace FrameStream

def ShapingRule.key (rule : ShapingRule) : String × UInt16 := (rule.interface, rule.port)

inductive ShapingRequest where
  | installOn (rule : ShapingRule)
  | install (host : Network.Host) (address : Network.IpAddress) (port : UInt16)
    (bytesPerSecond : UInt32)
  | select (preference : LimiterPreference) (host : Network.Host) (address : Network.IpAddress)
    (port : UInt16) (bytesPerSecond : UInt32) (now : Instant)

namespace ShapingRequest

def make (quantity : Type) [TokenQuantity quantity] (request : ShapingRequest) (shaper : Shaper)
    (registry : Registry) : Made (Limiter quantity) :=
  match request with
  | installOn rule =>
    let made := rule.installLimiter shaper registry
    { made with result := made.result.map .trafficControl }
  | install host address port bytesPerSecond =>
    let made := ShapingRule.installLimiterAt host address port bytesPerSecond shaper registry
    { made with result := made.result.map .trafficControl }
  | select preference host address port bytesPerSecond now =>
    Limiter.select preference bytesPerSecond host address port shaper registry now

/-- The rule that a request is for, where it is for traffic shaping. -/
def rule? : ShapingRequest → Option ShapingRule
  | installOn rule => some rule
  | install host address port bytesPerSecond =>
    (host.interfaceName? address).map (⟨·, port, bytesPerSecond⟩)
  | select .tokenBucket .. => none
  | select _ host address port bytesPerSecond _ =>
    (host.interfaceName? address).map (⟨·, port, bytesPerSecond⟩)

/-- How a request can go: the registry after it, the commands it runs and its result. -/
inductive Makes (request : ShapingRequest) (shaper : Shaper) (registry : Registry)
    {quantity : Type} :
    Registry → List ShapingCommand → Except StreamError (Limiter quantity) → Prop where
  | shapes {rule : ShapingRule} : request.rule? = some rule →
      Makes request shaper registry (registry.install shaper rule).registry
        (registry.install shaper rule).commands
        ((registry.install shaper rule).result.mapError .ofShaping |>.map .trafficControl)
  | plain {result : Except StreamError (Limiter quantity)} :
      (∀ rule, request.rule? = some rule → shaper.isAvailable = false ∨ rule.bytesPerSecond = 0) →
      (∀ rule, result ≠ .ok (.trafficControl rule)) →
      Makes request shaper registry registry [] result

section Cases

variable {quantity : Type} {request : ShapingRequest} (shaper : Shaper) (registry : Registry)

theorem makes_installLimiter {rule : ShapingRule} (requested : request.rule? = some rule) :
    let made := rule.installLimiter shaper registry
    request.Makes shaper registry made.registry made.commands
      (made.result.map (.trafficControl : ShapingRule → Limiter quantity)) := by
  unfold ShapingRule.installLimiter
  dsimp only
  split
  · rename_i unavailable
    exact .plain (fun _ _ => .inl (by simpa using unavailable)) nofun
  · split
    · rename_i zero
      refine .plain (fun other same => .inr ?_) nofun
      rw [requested] at same
      cases same
      exact zero
    · have shapes : request.Makes shaper registry (registry.install shaper rule).registry
          (registry.install shaper rule).commands
          ((registry.install shaper rule).result.mapError .ofShaping |>.map
            (.trafficControl : ShapingRule → Limiter quantity)) := .shapes requested
      split <;> rename_i result <;> simpa [result, Except.mapError, Except.map] using shapes

theorem makes_installLimiterAt {host : Network.Host} {address : Network.IpAddress} {port : UInt16}
    {bytesPerSecond : UInt32}
    (requested : request.rule? = (host.interfaceName? address).map (⟨·, port, bytesPerSecond⟩)) :
    let made := ShapingRule.installLimiterAt host address port bytesPerSecond shaper registry
    request.Makes shaper registry made.registry made.commands
      (made.result.map (.trafficControl : ShapingRule → Limiter quantity)) := by
  unfold ShapingRule.installLimiterAt Network.Host.interfaceFor
  split
  · rename_i unavailable
    exact .plain (fun _ _ => .inl (by simpa using unavailable)) nofun
  · cases found : host.interfaceName? address with
    | none => exact .plain (fun rule same => by simp [requested, found] at same) nofun
    | some interface =>
      exact makes_installLimiter shaper registry (by rw [requested, found]; rfl)

theorem makes_select [TokenQuantity quantity] (preference : LimiterPreference)
    (host : Network.Host) (address : Network.IpAddress) (port : UInt16) (bytesPerSecond : UInt32)
    (now : Instant) :
    let request := select preference host address port bytesPerSecond now
    let made := request.make quantity shaper registry
    request.Makes shaper registry made.registry made.commands made.result := by
  intro request
  change let made := Limiter.select preference bytesPerSecond host address port shaper registry now
    request.Makes shaper registry made.registry made.commands made.result
  unfold Limiter.select
  extract_lets shapes placed made selected
  have rated (rule : ShapingRule) (requested : request.rule? = some rule) :
      rule.bytesPerSecond = bytesPerSecond := by
    cases preference with
    | tokenBucket => cases requested
    | auto | trafficControl =>
      obtain ⟨_, _, rfl⟩ := Option.map_eq_some_iff.mp requested
      rfl
  have makes : request.Makes shaper registry made.registry made.commands made.result := by
    unfold made
    split
    · rename_i zero
      exact .plain (fun rule requested => .inr (zero ▸ rated rule requested)) nofun
    · split
      · rename_i shaped
        refine makes_installLimiterAt shaper registry ?_
        cases preference with
        | tokenBucket => simp [shapes] at shaped
        | auto | trafficControl => rfl
      · rename_i plain
        refine .plain (fun rule requested => .inl ?_) fun rule => by split <;> nofun
        cases preference with
        | auto => simpa [shapes] using plain
        | tokenBucket => cases requested
        | trafficControl => simp [shapes] at plain
  unfold selected
  split <;> exact makes

theorem make_cases (quantity : Type) [TokenQuantity quantity] (request : ShapingRequest) :
    let made := request.make quantity shaper registry
    request.Makes shaper registry made.registry made.commands made.result := by
  cases request with
  | installOn rule => exact makes_installLimiter shaper registry rfl
  | install host address port bytesPerSecond => exact makes_installLimiterAt shaper registry rfl
  | select preference host address port bytesPerSecond now => exact makes_select ..

end Cases

end ShapingRequest

inductive LimiterCall where
  | make (request : ShapingRequest)
  /-- Drops one of the limiters that live. -/
  | drop (index : Nat)

/-- A call on a shaper; which of its commands fail may differ from turn to turn. -/
structure LimiterTurn where
  shaper : Shaper
  call : LimiterCall

/-- The registry, and the rules of the limiters that live. -/
structure Owners where
  registry : Registry := {}
  live : List ShapingRule := []

namespace Owners

def adopt {quantity : Type} (live : List ShapingRule) :
    Except StreamError (Limiter quantity) → List ShapingRule
  | .ok (.trafficControl rule) => rule :: live
  | _ => live

def step (quantity : Type) [TokenQuantity quantity] (owners : Owners) (turn : LimiterTurn) :
    List ShapingCommand × Owners :=
  match turn.call with
  | .make request =>
    let made := request.make quantity turn.shaper owners.registry
    (made.commands, ⟨made.registry, adopt owners.live made.result⟩)
  | .drop index =>
    match owners.live[index]? with
    | some rule =>
      let shaped := rule.dropLimiter turn.shaper owners.registry
      (shaped.commands, ⟨shaped.registry, owners.live.eraseIdx index⟩)
    | none => ([], owners)

def run (quantity : Type) [TokenQuantity quantity] (turns : List LimiterTurn) : Owners :=
  turns.foldl (fun owners turn => (owners.step quantity turn).2) {}

/-- The registered rules are those of the limiters that live, each of which has its own. -/
structure Agree (owners : Owners) : Prop where
  distinct : (owners.live.map ShapingRule.key).Nodup
  registered : ∀ interface port, owners.registry.contains interface port = true ↔
    (interface, port) ∈ owners.live.map ShapingRule.key

variable {quantity : Type} {owners : Owners} {shaper : Shaper} {remaining : Registry}
  {commands : List ShapingCommand}

namespace Agree

theorem installs {rule : ShapingRule} {result : Except ShapingError ShapingRule}
    (agree : owners.Agree)
    (installs : owners.registry.Installs shaper rule remaining commands result) :
    Agree ⟨remaining, adopt owners.live (result.mapError .ofShaping |>.map
      (.trafficControl : ShapingRule → Limiter quantity))⟩ := by
  cases installs with
  | unavailable | taken | rootFails | classFails | filterFails => exact agree
  | installed absent =>
    constructor
    · refine List.nodup_cons.mpr ⟨?_, agree.distinct⟩
      rw [ShapingRule.key, ← agree.registered, absent]
      exact nofun
    · intro interface port
      rw [Registry.contains_insert, agree.registered]
      simp [adopt, Except.mapError, Except.map, ShapingRule.key]

theorem makes {request : ShapingRequest} {result : Except StreamError (Limiter quantity)}
    (agree : owners.Agree)
    (makes : request.Makes shaper owners.registry remaining commands result) :
    Agree ⟨remaining, adopt owners.live result⟩ := by
  cases makes with
  | shapes requested => exact agree.installs (owners.registry.install_cases _ _)
  | plain _ unshaped =>
    have same : adopt owners.live result = owners.live := by
      unfold adopt
      split
      · exact absurd rfl (unshaped _)
      · rfl
    rw [same]
    exact agree

theorem drops {index : Nat} {rule : ShapingRule} {result : Except ShapingError Unit}
    (agree : owners.Agree) (found : owners.live[index]? = some rule)
    (removes : owners.registry.Removes shaper rule remaining commands result) :
    Agree ⟨remaining, owners.live.eraseIdx index⟩ := by
  obtain ⟨bound, rfl⟩ := List.getElem?_eq_some_iff.mp found
  have erased : (owners.live.eraseIdx index).map ShapingRule.key =
      (owners.live.map ShapingRule.key).erase owners.live[index].key := by
    have keyed : index < (owners.live.map ShapingRule.key).length := by simpa using bound
    rw [← List.eraseIdx_map, ← agree.distinct.erase_getElem index keyed, List.getElem_map]
  have registered : owners.registry.contains owners.live[index].interface owners.live[index].port
      = true := (agree.registered ..).mpr (List.mem_map_of_mem (List.getElem_mem bound))
  cases removes with
  | absent unregistered => simp [registered] at unregistered
  | removed | failed =>
    refine ⟨erased ▸ agree.distinct.erase _, fun interface port => ?_⟩
    rw [Registry.contains_erase, agree.registered, erased, agree.distinct.mem_erase_iff, and_comm]
    simp [ShapingRule.key]

end Agree

theorem makes_spares {request : ShapingRequest} {registry : Registry}
    {result : Except StreamError (Limiter quantity)}
    (makes : request.Makes shaper registry remaining commands result) :
    ∃ rule, ∀ command ∈ commands, remaining.Spares rule command := by
  cases makes with
  | shapes requested => exact ⟨_, (registry.install_cases _ _).spares⟩
  | plain => exact ⟨default, nofun⟩

/-- A limiter for a rule that is registered is refused. -/
theorem makes_taken {request : ShapingRequest} {registry : Registry} {rule : ShapingRule}
    {result : Except StreamError (Limiter quantity)}
    (makes : request.Makes shaper registry remaining commands result)
    (requested : request.rule? = some rule) (rated : rule.bytesPerSecond ≠ 0)
    (available : shaper.isAvailable = true)
    (registered : registry.contains rule.interface rule.port = true) :
    remaining = registry ∧ commands = [] ∧
      result = .error (.ofShaping (.alreadyInstalled rule.interface rule.port)) := by
  cases makes with
  | plain excused =>
    rcases excused rule requested with unavailable | zero
    · simp [available] at unavailable
    · exact absurd zero rated
  | shapes other =>
    obtain rfl := Option.some.inj (requested.symm.trans other)
    have ⟨same, idle, refused⟩ := (registry.install_cases shaper rule).refused available registered
    exact ⟨same, idle, by rw [refused]; rfl⟩

variable [TokenQuantity quantity]

/-- A turn keeps the owners in agreement, and deletes nothing of a rule whose limiter lives. -/
theorem step_agree (agree : owners.Agree) (turn : LimiterTurn) :
    let next := owners.step quantity turn
    next.2.Agree ∧ ∃ rule, ∀ command ∈ next.1, next.2.registry.Spares rule command := by
  obtain ⟨shaper, call⟩ := turn
  cases call with
  | make request =>
    have makes := request.make_cases shaper owners.registry quantity
    exact ⟨agree.makes makes, makes_spares makes⟩
  | drop index =>
    unfold step
    dsimp only
    cases found : owners.live[index]? with
    | none => exact ⟨agree, default, nofun⟩
    | some rule =>
      have removes := owners.registry.remove_cases shaper rule
      exact ⟨agree.drops found removes, _, removes.spares⟩

theorem run_agree (turns : List LimiterTurn) : (run quantity turns).Agree := by
  induction turns using List.reverseRecOn with
  | nil => exact ⟨List.nodup_nil, fun _ _ => by simp [run, Registry.contains]⟩
  | append_singleton turns turn inductionHypothesis =>
    rw [run, List.foldl_append]
    exact (step_agree inductionHypothesis turn).1

/-- Limiters own their rules. Those that live have distinct keys, and these are what is registered.
No turn deletes anything of a rule whose limiter lives after it, and asking for a limiter that would
shape by such a rule is refused without running a command. -/
theorem limiters_own_rules (quantity : Type) [TokenQuantity quantity] (turns : List LimiterTurn)
    (turn : LimiterTurn) :
    let owners := run quantity turns
    let next := owners.step quantity turn
    owners.Agree ∧
      (∀ rule ∈ next.2.live, ∀ command ∈ next.1, command.isDeletion = true →
        command.target ∉ rule.objects) ∧
      ∀ request rule, turn.call = .make request → request.rule? = some rule →
        rule.bytesPerSecond ≠ 0 → turn.shaper.isAvailable = true →
        rule.key ∈ owners.live.map ShapingRule.key →
          (request.make quantity turn.shaper owners.registry).result =
              .error (.ofShaping (.alreadyInstalled rule.interface rule.port)) ∧
            next = ([], owners) := by
  intro owners next
  have agree : owners.Agree := run_agree turns
  have ⟨(agrees : next.2.Agree), _, spares⟩ := step_agree agree turn
  refine ⟨agree, fun rule lives command run deletion member => ?_, ?_⟩
  · have registered : next.2.registry.contains rule.interface rule.port = true :=
      (agrees.registered ..).mpr (List.mem_map_of_mem lives)
    exact (spares command run).2 deletion (Registry.needs_objects registered _ member)
  · intro request rule asked requested rated available held
    have registered := (agree.registered ..).mpr held
    have makes := request.make_cases turn.shaper owners.registry quantity
    have ⟨same, idle, refused⟩ := makes_taken makes requested rated available registered
    have asks : next = ((request.make quantity turn.shaper owners.registry).commands,
        ⟨(request.make quantity turn.shaper owners.registry).registry,
          adopt owners.live (request.make quantity turn.shaper owners.registry).result⟩) := by
      unfold next step
      rw [asked]
    rw [asks, same, idle, refused]
    exact ⟨rfl, rfl⟩

/-- Beside a limiter that lives, one for the same port is refused; of one for another port, whose
filter fails, only what was made for it is deleted. -/
theorem limiters_own_rules_of_neighbours :
    let turns : List LimiterTurn := [⟨.refusing [], .make (.installOn ⟨"eth0", 8080, 1000⟩)⟩]
    let again : LimiterTurn := ⟨.refusing [], .make (.installOn ⟨"eth0", 8080, 2000⟩)⟩
    let beside : LimiterTurn :=
      ⟨.refusing [.addFilter "eth0" 7000], .make (.installOn ⟨"eth0", 7000, 1000⟩)⟩
    (run Float turns).step Float again = ([], run Float turns) ∧
      ((run Float turns).step Float beside).1 =
        [.addClass "eth0" 7000 1000, .addFilter "eth0" 7000, .deleteClass "eth0" 7000] ∧
      ∀ command ∈ ((run Float turns).step Float beside).1, command.isDeletion = true →
        command.target ∉ ShapingRule.objects ⟨"eth0", 8080, 1000⟩ := by
  intro turns again beside
  have ⟨_, _, refused⟩ := limiters_own_rules Float turns again
  have ⟨_, kept, _⟩ := limiters_own_rules Float turns beside
  have taken := refused (.installOn ⟨"eth0", 8080, 2000⟩) ⟨"eth0", 8080, 2000⟩ rfl rfl (by decide)
    rfl (.head _)
  exact ⟨taken.2, rfl, kept ⟨"eth0", 8080, 1000⟩ (.head _)⟩

end Owners

end FrameStream
