/-
# ManualTraffic.FlowConfig.Basic -- traffic configurations

A flow configuration is a mapping from keys to scalars and further mappings, such
as `l2.framesize` or `l3.srcip`.  It is held as a chain: its own entries in key
order, and at the end what lies underneath.  A read goes down the chain
(`FlowConfig.read`): a key that a mapping lacks is looked up in the layer below it.

Every mapping that is read from text or made fresh lies on the common root, which
has no entries.  What the root has is a handful of functions
(`FlowConfig.rootFunctions`), which are read under their names until an entry hides
them and are neither scalars nor mappings, and the meaning of one reserved key,
`FlowConfig.layerKey`: reading it gives the layer that the mapping lies on, and
writing it replaces that layer instead of making an entry.  So a written entry of
that name vanishes from a copy, and its members show through.  A mapping that does
not reach the root has no such key, and there it is a key like any other.

Only a mapping's own entries are copied, compared and printed: `FlowConfig.clone`
and `FlowConfig.entries` do not see the layers.
-/
import ManualTraffic.Binary64.Basic
import ManualTraffic.KeyOrder

namespace ManualTraffic

set_option autoImplicit false

/-- A value that is no mapping. -/
inductive Scalar where
  | null
  | bool (value : Bool)
  | number (value : Binary64)
  | string (value : String)
  deriving DecidableEq

/-- A mapping: its own entries, and what lies underneath. -/
inductive FlowConfig where
  /-- No more entries; underneath is the common root. -/
  | root
  /-- No more entries, and nothing underneath. -/
  | bare
  /-- No more entries; underneath is another mapping. -/
  | over (layer : FlowConfig)
  /-- An entry that is a scalar. -/
  | scalar (key : String) (value : Scalar) (rest : FlowConfig)
  /-- An entry that is a mapping. -/
  | mapping (key : String) (inner : FlowConfig) (rest : FlowConfig)
  deriving DecidableEq

namespace FlowConfig

/-- What stands at a key. -/
inductive Node where
  | scalar (value : Scalar)
  | mapping (config : FlowConfig)
  deriving DecidableEq

/-- The reserved key that names the layer underneath. -/
def layerKey : String := "__proto__"

/-- The names of the functions of the common root. -/
def rootFunctions : List String :=
  ["constructor", "__defineGetter__", "__defineSetter__", "hasOwnProperty", "__lookupGetter__",
    "__lookupSetter__", "isPrototypeOf", "propertyIsEnumerable", "toString", "valueOf",
    "toLocaleString"]

/-- What reading a key gives. -/
inductive Reading where
  | nothing
  | scalar (value : Scalar)
  | mapping (config : FlowConfig)
  /-- A function of the common root. -/
  | function
  deriving DecidableEq

/-! ## Views -/

/-- A mapping's own entries, in key order. -/
def entries : FlowConfig → List (String × Node)
  | .root | .bare | .over _ => []
  | .scalar key value rest => (key, .scalar value) :: rest.entries
  | .mapping key inner rest => (key, .mapping inner) :: rest.entries

/-- A mapping's own entry for a key. -/
def own? (key : String) : FlowConfig → Option Node
  | .root | .bare | .over _ => none
  | .scalar k value rest => if k = key then some (.scalar value) else rest.own? key
  | .mapping k inner rest => if k = key then some (.mapping inner) else rest.own? key

/-- The node at a path of own entries; the empty path leads to the mapping
itself. -/
def nodeAt? : FlowConfig → List String → Option Node
  | config, [] => some (.mapping config)
  | config, key :: path =>
      match config.own? key with
      | some (.mapping inner) => inner.nodeAt? path
      | some (.scalar value) => if path = [] then some (.scalar value) else none
      | none => none

/-! ## Layers -/

/-- The entry for a key in a mapping or in the layers below it. -/
def find? (key : String) : FlowConfig → Option Node
  | .root | .bare => none
  | .over layer => layer.find? key
  | .scalar k value rest => if k = key then some (.scalar value) else rest.find? key
  | .mapping k inner rest => if k = key then some (.mapping inner) else rest.find? key

/-- Whether the lowest layer lies on the common root. -/
def reachesRoot : FlowConfig → Bool
  | .root => true
  | .bare => false
  | .over layer => layer.reachesRoot
  | .scalar _ _ rest => rest.reachesRoot
  | .mapping _ _ rest => rest.reachesRoot

/-- The layer just below a mapping.  The common root is itself a mapping with no
entries and nothing underneath. -/
def layer : FlowConfig → FlowConfig
  | .root => .bare
  | .bare => .bare
  | .over layer => layer
  | .scalar _ _ rest => rest.layer
  | .mapping _ _ rest => rest.layer

/-- Puts a mapping on another layer: on a mapping, or with null on nothing.  No
other scalar is a layer, and the mapping stays where it is. -/
def setLayer (node : Node) : FlowConfig → FlowConfig
  | .scalar k value rest => .scalar k value (rest.setLayer node)
  | .mapping k inner rest => .mapping k inner (rest.setLayer node)
  | lowest =>
      match node with
      | .mapping config => .over config
      | .scalar .null => .bare
      | .scalar _ => lowest

/-- What reading a key gives: an entry of the mapping or of a layer below it, else,
on the common root, the layer just below for the reserved key and a function for the
name of one. -/
def read (key : String) (config : FlowConfig) : Reading :=
  match config.find? key with
  | some (.scalar value) => .scalar value
  | some (.mapping inner) => .mapping inner
  | none =>
      if config.reachesRoot then
        if key = layerKey then .mapping config.layer
        else if rootFunctions.contains key then .function
        else .nothing
      else .nothing

/-! ## Writing -/

/-- An entry in front of a mapping. -/
def entry (key : String) : Node → FlowConfig → FlowConfig
  | .scalar value, rest => .scalar key value rest
  | .mapping inner, rest => .mapping key inner rest

/-- Places an entry whose key is not there yet. -/
def insert (key : String) (node : Node) : FlowConfig → FlowConfig
  | .scalar k value rest =>
      if KeyOrder.precedes key k then entry key node (.scalar k value rest)
      else .scalar k value (rest.insert key node)
  | .mapping k inner rest =>
      if KeyOrder.precedes key k then entry key node (.mapping k inner rest)
      else .mapping k inner (rest.insert key node)
  | lowest => entry key node lowest

/-- Gives the entry for a key a new value, in its old place. -/
def replace (key : String) (node : Node) : FlowConfig → FlowConfig
  | .scalar k value rest =>
      if k = key then entry key node rest else .scalar k value (rest.replace key node)
  | .mapping k inner rest =>
      if k = key then entry key node rest else .mapping k inner (rest.replace key node)
  | lowest => lowest

/-- Writes a key: in place when the mapping has an entry for it; on the layer when
it is the reserved key and the root gives it its meaning; else as a new entry where
key order puts it. -/
def put (key : String) (node : Node) (config : FlowConfig) : FlowConfig :=
  if (config.own? key).isSome then config.replace key node
  else if key = layerKey ∧ config.reachesRoot ∧ config.find? key = none then config.setLayer node
  else config.insert key node

/-! ## Copies -/

/-- Writes copies of a mapping's own entries, in order, into `copy`. -/
def cloneInto (copy : FlowConfig) : FlowConfig → FlowConfig
  | .root | .bare | .over _ => copy
  | .scalar key value rest => cloneInto (copy.put key (.scalar value)) rest
  | .mapping key inner rest => cloneInto (copy.put key (.mapping (cloneInto .root inner))) rest

/-- A fresh mapping with copies of a mapping's own entries at every level. -/
def clone (config : FlowConfig) : FlowConfig := cloneInto .root config

/-- A copy of a node. -/
def Node.clone : Node → Node
  | .scalar value => .scalar value
  | .mapping config => .mapping config.clone

end FlowConfig

end ManualTraffic
