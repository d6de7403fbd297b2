import FrameStream.Text.Quoted

namespace FrameStream

inductive Direction where
  | hostToDevice
  | deviceToHost
  deriving DecidableEq, Repr, Inhabited

def Direction.keyword : Direction → String
  | .hostToDevice => "host_to_device"
  | .deviceToHost => "device_to_host"

def Direction.title : Direction → String
  | .hostToDevice => "HostToDevice"
  | .deviceToHost => "DeviceToHost"

/-- One read or write exchanges `frameSize` bytes; an activation may ask for batches of up to
`maximumBatchSize` frames. -/
structure Layer where
  name : String
  direction : Direction
  frameSize : Nat
  maximumBatchSize : UInt16
  deriving DecidableEq, Repr, Inhabited

end FrameStream
