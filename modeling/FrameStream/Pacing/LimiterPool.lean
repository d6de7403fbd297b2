import FrameStream.Pacing.Limiter

/-!
Limiters that several shapers make over one registry.

Each limiter is held under a name, together with the shaper that made it. Making a limiter under a
name in use drops the one that was held there, once the new one has been made.
-/

namespace FrameStream

/-- A limiter that shapes traffic, and which shaper made it. -/
structure HeldLimiter where
  name : String
  shaper : Nat
  rule : ShapingRule
  deriving DecidableEq, Repr

structure LimiterPool where
  shapers : List Shaper
  registry : Registry := {}
  limiters : List HeldLimiter := []

/-- What an operation on a pool leads to. Commands are given with the shaper that ran them. -/
structure Pooled (value : Type) where
  pool : LimiterPool
  commands : List (Nat × List ShapingCommand) := []
  events : List Event := []
  answer : value

def Pooled.commandsOf (pooled : Pooled value) (index : Nat) : List ShapingCommand :=
  (pooled.commands.filter fun entry => entry.1 == index).flatMap (·.2)

namespace LimiterPool

/-- The shaper with a number; one that is not there is not available. -/
def shaper (pool : LimiterPool) (index : Nat) : Shaper :=
  pool.shapers.getD index ⟨false, fun _ => none⟩

def find? (pool : LimiterPool) (name : String) : Option HeldLimiter :=
  pool.limiters.find? fun held => held.name == name

def ofShaped (pool : LimiterPool) (index : Nat) (shaped : Shaped value) :
    Pooled (Except ShapingError value) where
  pool := { pool with registry := shaped.registry }
  commands := [(index, shaped.commands)]
  events := shaped.events
  answer := shaped.result

def install (pool : LimiterPool) (index : Nat) (rule : ShapingRule) :
    Pooled (Except ShapingError ShapingRule) :=
  pool.ofShaped index (pool.registry.install (pool.shaper index) rule)

def remove (pool : LimiterPool) (index : Nat) (rule : ShapingRule) :
    Pooled (Except ShapingError Unit) :=
  pool.ofShaped index (pool.registry.remove (pool.shaper index) rule)

def drop (pool : LimiterPool) (name : String) : Pooled Bool :=
  match pool.find? name with
  | none => { pool, answer := false }
  | some held =>
    let dropped := held.rule.dropLimiter (pool.shaper held.shaper) pool.registry
    { pool := { pool with
        registry := dropped.registry
        limiters := pool.limiters.filter fun other => other.name != name }
      commands := [(held.shaper, dropped.commands)]
      events := dropped.events
      answer := true }

def make (pool : LimiterPool) (index : Nat) (name : String)
    (construct : Shaper → Registry → Made ShapingRule) :
    Pooled (Except StreamError ShapingRule) :=
  let made := construct (pool.shaper index) pool.registry
  let pool := { pool with registry := made.registry }
  let commands := [(index, made.commands)]
  match made.result with
  | .error error => { pool, commands, events := made.events, answer := .error error }
  | .ok rule =>
    let dropped := pool.drop name
    { pool := { dropped.pool with
        limiters := dropped.pool.limiters ++ [⟨name, index, rule⟩] }
      commands := commands ++ dropped.commands
      events := made.events ++ dropped.events
      answer := .ok rule }

end LimiterPool

end FrameStream
