/-
# ManualTraffic.FlowConfig.Json -- configurations as JSON

A JSON value is a configuration when it is an object of scalars and such objects:
an array anywhere in it is refused (`FlowConfig.ofJson?`).  In the other direction a
configuration shows its own entries (`FlowConfig.toJson`).
-/
import ManualTraffic.FlowConfig.Basic
import ManualTraffic.Json.Printer
import ManualTraffic.Json.Reader

namespace ManualTraffic

set_option autoImplicit false

/-- A scalar as JSON. -/
def Scalar.toJson : Scalar → Json
  | .null => .null
  | .bool value => .bool value
  | .number value => .number value
  | .string value => .string value

namespace FlowConfig

mutual

/-- The node that a JSON value is. -/
def nodeOfJson? : Json → Option Node
  | .null => some (.scalar .null)
  | .bool value => some (.scalar (.bool value))
  | .number value => some (.scalar (.number value))
  | .string value => some (.scalar (.string value))
  | .array _ => none
  | .object members => (ofMembers? members).map .mapping
termination_by structural value => value

/-- The mapping, on the common root, that has the given members as entries. -/
def ofMembers? : List (String × Json) → Option FlowConfig
  | [] => some .root
  | (key, value) :: members =>
      match nodeOfJson? value, ofMembers? members with
      | some node, some rest => some (entry key node rest)
      | _, _ => none
termination_by structural members => members

end

/-- The configuration that a JSON value is. -/
def ofJson? : Json → Option FlowConfig
  | .object members => ofMembers? members
  | _ => none

/-- The members that a configuration shows. -/
def toMembers : FlowConfig → List (String × Json)
  | .root | .bare | .over _ => []
  | .scalar key value rest => (key, value.toJson) :: rest.toMembers
  | .mapping key inner rest => (key, .object inner.toMembers) :: rest.toMembers

/-- A configuration as a JSON object. -/
def toJson (config : FlowConfig) : Json := .object config.toMembers

end FlowConfig

end ManualTraffic
