/-
# ManualTraffic.Settings.Bundled -- the defaults that come with the program
-/
import ManualTraffic.FlowConfig.Basic

namespace ManualTraffic

set_option autoImplicit false

namespace Bundled

/-- The entries of a configuration, on the common root. -/
def config (entries : List (String × FlowConfig.Node)) : FlowConfig :=
  entries.foldr (fun (key, node) rest => FlowConfig.entry key node rest) .root

def text (value : String) : FlowConfig.Node := .scalar (.string value)

def whole (value : Nat) : FlowConfig.Node := .scalar (.number (.ofNat false value))

/-- The configuration used when no defaults file is named. -/
def defaults : FlowConfig := config [
  ("traffic_type", text "rfc2544"),
  ("frame_rate", whole 100),
  ("bidir", text "False"),
  ("multistream", whole 0),
  ("stream_type", text "L4"),
  ("pre_installed_flows", text "No"),
  ("l2", .mapping (config [
    ("framesize", whole 64),
    ("srcmac", text "00:00:00:00:00:00"),
    ("dstmac", text "00:00:00:00:00:00")])),
  ("l3", .mapping (config [
    ("proto", text "udp"),
    ("srcip", text "1.1.1.1"),
    ("dstip", text "90.90.90.90")])),
  ("l4", .mapping (config [
    ("srcport", whole 3000),
    ("dstport", whole 3001)])),
  ("vlan", .mapping (config [
    ("enabled", .scalar (.bool false)),
    ("id", whole 0),
    ("priority", whole 0),
    ("cfi", whole 0)]))]

end Bundled

end ManualTraffic
