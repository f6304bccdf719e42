/-
# ManualTraffic.Json.Basic -- JSON values

A JSON value with binary64 numbers; the members of an object are in key order.
-/
import ManualTraffic.Binary64.Text
import ManualTraffic.KeyOrder

namespace ManualTraffic

set_option autoImplicit false

inductive Json where
  | null
  | bool (value : Bool)
  | number (value : Binary64)
  | string (value : String)
  | array (items : List Json)
  | object (members : List (String × Json))

end ManualTraffic
