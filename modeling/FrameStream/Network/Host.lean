import FrameStream.Network.Address

namespace FrameStream.Network

structure Interface where
  name : String
  address : IpAddress
  deriving DecidableEq, Repr

structure Host where
  interfaces : List Interface
  bindable : SocketAddress → Bool
  reaches : (localAddress remote : SocketAddress) → Bool

namespace Host

/-- The name of the first interface that owns the address. -/
def interfaceName? (host : Host) (address : IpAddress) : Option String :=
  (host.interfaces.find? (·.address == address)).map (·.name)

/-- A host without interfaces: no peer answers. It owns no address, but only of a 128-bit address
is that noticed when a socket is bound to it. -/
def isolated : Host where
  interfaces := []
  bindable
    | .v4 _ _ => true
    | .v6 address _ _ => !address.needsOwner
  reaches _ _ := false

def loopback : Host where
  interfaces := [⟨"lo", .v4 .loopback⟩]
  bindable address := address.ip == .v4 .any || address.ip == .v4 .loopback
  reaches _ remote := remote.ip == .v4 .loopback

end Host

end FrameStream.Network
