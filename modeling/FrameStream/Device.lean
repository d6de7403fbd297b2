import FrameStream.Network.Address
import FrameStream.Text.Record

namespace FrameStream

structure Device where
  id : String
  address : Network.IpAddress
  deriving DecidableEq, Repr, Inhabited

def Device.debugText (device : Device) : String :=
  Text.record "EthernetDevice"
    [("id", Text.quoted device.id), ("address", device.address.text)] false

end FrameStream
