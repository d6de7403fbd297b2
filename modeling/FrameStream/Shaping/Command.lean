import FrameStream.Shaping.Error
import FrameStream.Text.Record

namespace FrameStream

/-- Limits the traffic to a port that leaves through an interface. -/
structure ShapingRule where
  interface : String
  port : UInt16
  bytesPerSecond : UInt32
  deriving DecidableEq, Repr, Inhabited

namespace ShapingRule

def text (rule : ShapingRule) : String :=
  s!"{rule.interface}:{rule.port.toNat}@{rule.bytesPerSecond.toNat}B/s"

def debugText (rule : ShapingRule) : String :=
  Text.record "ShapingHandle"
    [("interface", Text.quoted rule.interface), ("port", toString rule.port.toNat),
      ("bytes_per_sec", toString rule.bytesPerSecond.toNat)] false

end ShapingRule

inductive ShapingCommand where
  | addRoot (interface : String)
  | deleteRoot (interface : String)
  | addClass (interface : String) (port : UInt16) (bytesPerSecond : UInt32)
  | deleteClass (interface : String) (port : UInt16)
  | addFilter (interface : String) (port : UInt16)
  | deleteFilter (interface : String) (port : UInt16)
  deriving DecidableEq, Repr, Inhabited

namespace ShapingCommand

def interface : ShapingCommand → String
  | addRoot interface | deleteRoot interface | addClass interface _ _ | deleteClass interface _
  | addFilter interface _ | deleteFilter interface _ => interface

def classId (port : UInt16) : String := "1:" ++ Text.hexadecimal port.toNat

/-- The arguments of a command. Rates are in bits, eight for each byte. -/
def arguments : ShapingCommand → List String
  | addRoot interface => ["qdisc", "add", "dev", interface, "root", "handle", "1:", "htb"]
  | deleteRoot interface => ["qdisc", "del", "dev", interface, "root"]
  | addClass interface port bytesPerSecond =>
    ["class", "add", "dev", interface, "parent", "1:", "classid", classId port, "htb", "rate",
      toString (bytesPerSecond.toNat * 8) ++ "bit"]
  | deleteClass interface port => ["class", "del", "dev", interface, "classid", classId port]
  | addFilter interface port =>
    ["filter", "add", "dev", interface, "protocol", "ip", "parent", "1:", "prio",
      toString port.toNat, "u32", "match", "ip", "dport", toString port.toNat, "0xffff", "flowid",
      classId port]
  | deleteFilter interface port =>
    ["filter", "del", "dev", interface, "parent", "1:", "prio", toString port.toNat]

def text (command : ShapingCommand) : String := " ".intercalate command.arguments

end ShapingCommand

/-- The means to run shaping commands: whether there are any, and which commands fail. -/
structure Shaper where
  isAvailable : Bool
  failure? : ShapingCommand → Option ShapingError

inductive FailureKind where
  | command
  | io
  | notSupported
  deriving DecidableEq, Repr, Inhabited

/-- Makes commands fail whose text starts in a given way. -/
structure FailureRule where
  start : String
  kind : FailureKind
  detail : String
  deriving DecidableEq, Repr, Inhabited

def FailureRule.error (rule : FailureRule) (command : ShapingCommand) : ShapingError :=
  match rule.kind with
  | .command => .command command.text rule.detail
  | .io => .io ⟨.other, rule.detail⟩
  | .notSupported => .notSupported rule.detail

/-- A shaper whose commands succeed, but for those that a rule makes fail; the first rule that
applies decides. -/
def Shaper.ofRules (isAvailable : Bool) (rules : List FailureRule) : Shaper where
  isAvailable := isAvailable
  failure? command :=
    (rules.find? fun rule => rule.start.toList.isPrefixOf command.text.toList).map
      fun rule => rule.error command

end FrameStream
