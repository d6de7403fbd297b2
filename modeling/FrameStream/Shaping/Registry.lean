import FrameStream.Event
import FrameStream.Shaping.Command

/-!
The registry of installed rules, by which shapers on one host keep out of each other's way.

Installing builds what the rule needs step by step and takes back what it built when a step fails.
Removing takes the rule out of the registry first and then runs every teardown step, whether or
not the steps before it worked.
-/

namespace FrameStream

/-- The interface and port of every installed rule. -/
structure Registry where
  rules : List (String × UInt16) := []
  deriving DecidableEq, Repr, Inhabited

namespace Registry

def contains (registry : Registry) (interface : String) (port : UInt16) : Bool :=
  registry.rules.contains (interface, port)

def isIdle (registry : Registry) (interface : String) : Bool :=
  registry.rules.all fun rule => rule.1 != interface

def insert (registry : Registry) (interface : String) (port : UInt16) : Registry :=
  ⟨(interface, port) :: registry.rules⟩

def erase (registry : Registry) (interface : String) (port : UInt16) : Registry :=
  ⟨registry.rules.filter (· != (interface, port))⟩

end Registry

/-- What an operation on the registry leads to: the registry after it, the commands it ran in
order, what it reported and how it ended. -/
structure Shaped (α : Type) where
  registry : Registry
  commands : List ShapingCommand := []
  events : List Event := []
  result : Except ShapingError α

namespace Registry

/-- Takes back the root queue if the failed installation had made it. -/
def rollBackRoot (shaper : Shaper) (interface : String) (madeRoot : Bool) :
    List ShapingCommand × List Event :=
  if madeRoot then
    let command := ShapingCommand.deleteRoot interface
    ([command], ((shaper.failure? command).map fun error =>
      Event.rootRollbackFailed interface error.message).toList)
  else ([], [])

def rollBackClass (shaper : Shaper) (interface : String) (port : UInt16) :
    List ShapingCommand × List Event :=
  let command := ShapingCommand.deleteClass interface port
  ([command], ((shaper.failure? command).map fun error =>
    Event.classRollbackFailed interface port.toNat error.message).toList)

/-- Installs a rule: the root queue if it is the first of its interface, then class and filter. -/
def install (registry : Registry) (shaper : Shaper) (rule : ShapingRule) : Shaped ShapingRule :=
  let interface := rule.interface
  let port := rule.port
  if !shaper.isAvailable then
    { registry, result := .error (.notSupported "`tc` is not available") }
  else if registry.contains interface port then
    { registry, result := .error (.alreadyInstalled interface port) }
  else
    let makesRoot := registry.isIdle interface
    let root := if makesRoot then [ShapingCommand.addRoot interface] else []
    let addClass := ShapingCommand.addClass interface port rule.bytesPerSecond
    let addFilter := ShapingCommand.addFilter interface port
    match root.findSome? shaper.failure? with
    | some error => { registry, commands := root, result := .error error }
    | none =>
      match shaper.failure? addClass with
      | some error =>
        let undone := rollBackRoot shaper interface makesRoot
        { registry
          commands := root ++ addClass :: undone.1
          events := undone.2
          result := .error error }
      | none =>
        match shaper.failure? addFilter with
        | some error =>
          let undoneClass := rollBackClass shaper interface port
          let undoneRoot := rollBackRoot shaper interface makesRoot
          { registry
            commands := root ++ addClass :: addFilter :: undoneClass.1 ++ undoneRoot.1
            events := undoneClass.2 ++ undoneRoot.2
            result := .error error }
        | none =>
          { registry := registry.insert interface port
            commands := root ++ [addClass, addFilter]
            events := [.ruleInstalled interface port.toNat rule.bytesPerSecond.toNat]
            result := .ok rule }

/-- Removes a rule: filter, class, and the root queue if no rule is left on the interface. The
first failure is reported. A rule that is not registered needs no removal. -/
def remove (registry : Registry) (shaper : Shaper) (rule : ShapingRule) : Shaped Unit :=
  let interface := rule.interface
  let port := rule.port
  if registry.contains interface port then
    let remaining := registry.erase interface port
    let steps := [ShapingCommand.deleteFilter interface port, .deleteClass interface port] ++
      if remaining.isIdle interface then [.deleteRoot interface] else []
    match steps.filterMap shaper.failure? with
    | [] =>
      { registry := remaining
        commands := steps
        events := [.ruleRemoved rule.text]
        result := .ok () }
    | first :: rest =>
      { registry := remaining
        commands := steps
        events := (first :: rest).map fun error => .teardownStepFailed rule.text error.message
        result := .error first }
  else { registry, events := [.ruleAbsent rule.text], result := .ok () }

end Registry

end FrameStream
