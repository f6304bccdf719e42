/-
# ManualTraffic.FlowConfig.FrameSize -- the size of a frame

The frame size of a configuration is the finite number at `l2.framesize`, each key
read through the layers.
-/
import ManualTraffic.FlowConfig.Basic
import ManualTraffic.Fault

namespace ManualTraffic

set_option autoImplicit false

namespace FlowConfig

/-- The frame size of a configuration. -/
def frameSize (config : FlowConfig) : Except Fault Binary64 :=
  match config.read "l2" with
  | .mapping l2 =>
      match l2.read "framesize" with
      | .scalar (.number size) => if size.isFinite then .ok size else .error .noFrameSize
      | _ => .error .noFrameSize
  | _ => .error .noLinkLayer

end FlowConfig

end ManualTraffic
