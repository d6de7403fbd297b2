import FrameStream.Transport.Error

namespace FrameStream

inductive ShapingError where
  | notSupported (reason : String)
  | interfaceNotFound (address : String)
  | alreadyInstalled (interface : String) (port : UInt16)
  | command (line detail : String)
  | io (failure : IoFailure)
  deriving DecidableEq, Repr, Inhabited

def ShapingError.title : ShapingError → String
  | .notSupported _ => "NotSupported"
  | .interfaceNotFound _ => "InterfaceNotFound"
  | .alreadyInstalled .. => "AlreadyInstalled"
  | .command .. => "Command"
  | .io _ => "Io"

def ShapingError.message : ShapingError → String
  | .notSupported reason => s!"traffic shaping is not supported on this host: {reason}"
  | .interfaceNotFound address => s!"no network interface owns address {address}"
  | .alreadyInstalled interface port =>
    s!"a shaping rule for port {port.toNat} already exists on {interface}"
  | .command line detail => "traffic control command `" ++ line ++ "` failed: " ++ detail
  | .io failure => s!"traffic control io failure: {failure.text}"

end FrameStream
