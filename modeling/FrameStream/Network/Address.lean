import FrameStream.Text.Quoted

namespace FrameStream.Network

structure IPv4 where
  first : UInt8
  second : UInt8
  third : UInt8
  fourth : UInt8
  deriving DecidableEq, Repr, Inhabited

structure IPv6 where
  groups : Vector UInt16 8
  deriving DecidableEq, Repr, Inhabited

inductive IpAddress where
  | v4 (address : IPv4)
  | v6 (address : IPv6)
  deriving DecidableEq, Repr, Inhabited

/-- An address with a port; a 128-bit address also has the number of its scope. -/
inductive SocketAddress where
  | v4 (address : IPv4) (port : UInt16)
  | v6 (address : IPv6) (port : UInt16) (scope : UInt32)
  deriving DecidableEq, Repr, Inhabited

def IPv4.any : IPv4 := ⟨0, 0, 0, 0⟩

def IPv4.loopback : IPv4 := ⟨127, 0, 0, 1⟩

def IPv6.any : IPv6 := ⟨Vector.replicate 8 0⟩

def IPv4.text (address : IPv4) : String :=
  ".".intercalate ([address.first, address.second, address.third, address.fourth].map
    fun octet => toString octet.toNat)

/-- The 32-bit address that a 128-bit address stands for, if its groups are five zeros, a group
of ones and two more. -/
def IPv6.mapped? (address : IPv6) : Option IPv4 :=
  match address.groups.toList with
  | [0, 0, 0, 0, 0, 0xFFFF, high, low] =>
    some ⟨(high >>> 8).toUInt8, high.toUInt8, (low >>> 8).toUInt8, low.toUInt8⟩
  | _ => none

/-- Whether the address stands for a set of receivers that may reach beyond one link. -/
def IPv6.isWideMulticast (address : IPv6) : Bool :=
  let group := address.groups[0]
  group >>> 8 == 0xFF && group &&& 0xF != 1 && group &&& 0xF != 2

/-- Whether a socket bound to the address needs an interface that owns it. -/
def IPv6.needsOwner (address : IPv6) : Bool :=
  address != .any && address.mapped?.isNone && !address.isWideMulticast

/-- The start and length of the longest run of zeros, the first of equally long ones. The run
that ends where the scan stands is `current`. -/
private def longestZeros : List UInt16 → Nat → Nat × Nat → Nat × Nat → Nat × Nat
  | [], _, _, longest => longest
  | group :: rest, position, current, longest =>
    if group = 0 then
      let extended := if current.2 = 0 then (position, 1) else (current.1, current.2 + 1)
      let longest := if longest.2 < extended.2 then extended else longest
      longestZeros rest (position + 1) extended longest
    else longestZeros rest (position + 1) (0, 0) longest

private def groupsText (groups : List UInt16) : String :=
  ":".intercalate (groups.map fun group => Text.hexadecimal group.toNat)

/-- A mapped address ends in dotted octets; in any other the first of its longest runs of two or
more zero groups is left out. -/
def IPv6.text (address : IPv6) : String :=
  match address.mapped? with
  | some inner => "::ffff:" ++ inner.text
  | none =>
    let groups := address.groups.toList
    let run := longestZeros groups 0 (0, 0) (0, 0)
    if run.2 > 1 then
      groupsText (groups.take run.1) ++ "::" ++ groupsText (groups.drop (run.1 + run.2))
    else groupsText groups

def IpAddress.text : IpAddress → String
  | .v4 address => address.text
  | .v6 address => address.text

namespace SocketAddress

def port : SocketAddress → UInt16
  | .v4 _ port => port
  | .v6 _ port _ => port

def ip : SocketAddress → IpAddress
  | .v4 address _ => .v4 address
  | .v6 address _ _ => .v6 address

def ofIp (address : IpAddress) (port : UInt16) : SocketAddress :=
  match address with
  | .v4 inner => .v4 inner port
  | .v6 inner => .v6 inner port 0

/-- A 128-bit address stands in brackets, with its scope if that is not zero. -/
def text : SocketAddress → String
  | .v4 address port => s!"{address.text}:{port.toNat}"
  | .v6 address port scope =>
    let zone := if scope = 0 then "" else s!"%{scope.toNat}"
    s!"[{address.text}{zone}]:{port.toNat}"

end SocketAddress

end FrameStream.Network
