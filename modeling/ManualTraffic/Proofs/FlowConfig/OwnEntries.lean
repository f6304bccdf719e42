/-
# ManualTraffic.Proofs.FlowConfig.OwnEntries -- what a copy has in common with its original

A configuration may lie on anything, at any level.  Its own entries are another configuration,
on the common root at every level (`ownOnly`), which has the same keys and the same members,
and a copy does not tell the two apart (`clone_ownOnly`).  What is written of a
configuration is its own entries, too (`lookup_toMembers`), and it tells all shapes
(`shapeAt?_eq_of_toJson`).  Where all mappings have their keys in
key order (`KeyOrdered`), the own entries are tidy, and so they are the copy (`clone_eq_ownOnly`):
a configuration and its copy are written the same (`toJson_clone`).
-/
import ManualTraffic.FlowConfig.Json
import ManualTraffic.Proofs.FlowConfig.Paths

namespace ManualTraffic

set_option autoImplicit false

namespace FlowConfig

variable {config copy rest : FlowConfig} {key k : String} {path : List String} {node : Node}

/-! ## Own entries -/

/-- The own entries alone, on the common root at every level. -/
def ownOnly : FlowConfig → FlowConfig
  | .root | .bare | .over _ => .root
  | .scalar key value rest => .scalar key value rest.ownOnly
  | .mapping key inner rest => .mapping key inner.ownOnly rest.ownOnly

/-- A node with own entries alone. -/
def Node.ownOnly : Node → Node
  | .scalar value => .scalar value
  | .mapping config => .mapping config.ownOnly

theorem ownOnly_entry :
    (entry key node rest).ownOnly = entry key node.ownOnly rest.ownOnly := by
  cases node <;> rfl

theorem own?_ownOnly : config.ownOnly.own? k = (config.own? k).map Node.ownOnly := by
  induction config using entryInduction with
  | root | bare | layered => rfl
  | entry key node rest _ ih =>
      rw [ownOnly_entry, own?_entry, own?_entry, ih]
      by_cases hit : key = k
      · rw [if_pos hit, if_pos hit]
        rfl
      · rw [if_neg hit, if_neg hit]

theorem ownOnly_insert :
    (config.insert key node).ownOnly = config.ownOnly.insert key node.ownOnly := by
  induction config using entryInduction with
  | root | bare | layered => exact ownOnly_entry
  | entry first value rest _ ih =>
      rw [insert_entry, ownOnly_entry, insert_entry]
      by_cases before : KeyOrder.precedes key first
      · rw [if_pos before, if_pos before, ownOnly_entry, ownOnly_entry]
      · rw [if_neg before, if_neg before, ownOnly_entry, ih]

theorem ownOnly_replace :
    (config.replace key node).ownOnly = config.ownOnly.replace key node.ownOnly := by
  induction config using entryInduction with
  | root | bare | layered => rfl
  | entry first value rest _ ih =>
      rw [replace_entry, ownOnly_entry, replace_entry]
      by_cases hit : first = key
      · rw [if_pos hit, if_pos hit, ownOnly_entry]
      · rw [if_neg hit, if_neg hit, ownOnly_entry, ih]

theorem ownOnly_setLayer : (config.setLayer node).ownOnly = config.ownOnly := by
  induction config using entryInduction with
  | root | bare | layered =>
      cases node with
      | mapping => rfl
      | scalar value => cases value <;> rfl
  | entry first value rest _ ih => rw [setLayer_entry, ownOnly_entry, ownOnly_entry, ih]

/-- Own entries are written over own entries. -/
theorem ownOnly_put (free : key ≠ layerKey) :
    (config.put key node).ownOnly = config.ownOnly.put key node.ownOnly := by
  have same : (config.ownOnly.own? key).isSome = (config.own? key).isSome := by
    rw [own?_ownOnly, Option.isSome_map]
  unfold put
  rw [same]
  by_cases present : (config.own? key).isSome = true
  · rw [if_pos present, if_pos present, ownOnly_replace]
  · rw [if_neg present, if_neg present, if_neg fun reserved => free reserved.1,
      if_neg fun reserved => free reserved.1, ownOnly_insert]

/-! ## Copies -/

/-- A copy does not see what lies underneath, at any level. -/
theorem cloneInto_ownOnly : cloneInto copy config.ownOnly = cloneInto copy config := by
  induction config using entryInduction generalizing copy with
  | root | bare | layered => rfl
  | entry key node rest below ih =>
      have same : node.ownOnly.clone = node.clone := by
        cases node with
        | scalar value => rfl
        | mapping inner => exact congrArg Node.mapping (below inner rfl)
      rw [ownOnly_entry, cloneInto_entry, cloneInto_entry, same, ih]

theorem clone_ownOnly : config.ownOnly.clone = config.clone := cloneInto_ownOnly

/-! ## What is seen of the own entries -/

theorem nodeAt?_ownOnly : config.ownOnly.nodeAt? path = (config.nodeAt? path).map Node.ownOnly := by
  induction path generalizing config with
  | nil => simp only [nodeAt?_nil, Option.map_some, Node.ownOnly]
  | cons k path ih =>
      rw [nodeAt?_cons, nodeAt?_cons, own?_ownOnly]
      cases config.own? k with
      | none => rfl
      | some node =>
          cases node with
          | mapping inner => exact ih
          | scalar value => cases path <;> rfl

theorem keys_ownOnly : config.ownOnly.keys = config.keys := by
  induction config using entryInduction with
  | root | bare | layered => rfl
  | entry key node rest _ ih => rw [ownOnly_entry, keys_entry, keys_entry, ih]

theorem lowest_ownOnly : config.ownOnly.lowest = .root := by
  induction config using entryInduction with
  | root | bare | layered => rfl
  | entry key node rest _ ih => rw [ownOnly_entry, lowest_entry, ih]

theorem Plain.ownOnly (plain : config.Plain) : config.ownOnly.Plain := by
  induction config using entryInduction with
  | root | bare | layered => exact ⟨trivial, trivial⟩
  | entry key node rest below ih =>
      obtain ⟨free, fresh, nodePlain, restPlain⟩ := plain_entry.1 plain
      rw [ownOnly_entry]
      refine plain_entry.2 ⟨free, ?_, ?_, ih restPlain⟩
      · rw [own?_ownOnly, fresh]
        rfl
      · cases node with
        | scalar value => exact nodePlain
        | mapping inner =>
            exact Node.plain_mapping.2 (below inner rfl (Node.plain_mapping.1 nodePlain))

/-! ## Configurations as JSON objects -/

/-- A node as JSON. -/
def Node.toJson : Node → Json
  | .scalar value => value.toJson
  | .mapping config => config.toJson

theorem toMembers_entry :
    (entry key node rest).toMembers = (key, node.toJson) :: rest.toMembers := by
  cases node <;> rfl

/-- A configuration shows its own entries. -/
theorem lookup_toMembers : config.toMembers.lookup k = (config.own? k).map Node.toJson := by
  induction config using entryInduction with
  | root | bare | layered => rfl
  | entry key node rest _ ih =>
      rw [toMembers_entry, own?_entry, List.lookup_cons, ih]
      by_cases same : key = k
      · simp [same]
      · have apart : (k == key) = false := beq_eq_false_iff_ne.2 (Ne.symm same)
        rw [apart, if_neg same]

theorem toMembers_ownOnly : config.ownOnly.toMembers = config.toMembers := by
  induction config using entryInduction with
  | root | bare | layered => rfl
  | entry key node rest below ih =>
      have shown : node.ownOnly.toJson = node.toJson := by
        cases node with
        | scalar value => rfl
        | mapping inner => exact congrArg Json.object (below inner rfl)
      rw [ownOnly_entry, toMembers_entry, toMembers_entry, ih, shown]

theorem ofMembers?_toMembers : ofMembers? config.toMembers = some config.ownOnly := by
  induction config using entryInduction with
  | root | bare | layered => rfl
  | entry key node rest below ih =>
      have read : nodeOfJson? node.toJson = some node.ownOnly := by
        cases node with
        | scalar value => cases value <;> rfl
        | mapping inner => exact congrArg (Option.map Node.mapping) (below inner rfl)
      rw [toMembers_entry, ofMembers?, read, ih, ownOnly_entry]

/-- What a configuration shows is accepted, and read as its own entries. -/
theorem ofJson?_toJson : ofJson? config.toJson = some config.ownOnly := ofMembers?_toMembers

theorem scalar_toJson_inj {value other : Scalar} (same : value.toJson = other.toJson) :
    value = other := by
  cases value <;> cases other <;> simp_all [Scalar.toJson]

/-- What is written of a node tells what it looks like from above. -/
theorem Node.shape_eq_of_toJson {other : Node} (same : node.toJson = other.toJson) :
    node.shape = other.shape := by
  cases node with
  | scalar value =>
      cases other with
      | scalar value' => exact congrArg Shape.scalar (scalar_toJson_inj same)
      | mapping inner' => cases value <;> cases same
  | mapping inner =>
      cases other with
      | scalar value' => cases value' <;> cases same
      | mapping inner' => rfl

/-- Configurations that are written the same have the same shapes. -/
theorem shapeAt?_eq_of_toJson {other : FlowConfig} (same : config.toJson = other.toJson) :
    config.shapeAt? path = other.shapeAt? path := by
  induction path generalizing config other with
  | nil => simp only [shapeAt?, nodeAt?_nil, Option.map_some, Node.shape]
  | cons k path ih =>
      have members : config.toMembers = other.toMembers := Json.object.inj same
      have own : (config.own? k).map Node.toJson = (other.own? k).map Node.toJson := by
        rw [← lookup_toMembers, ← lookup_toMembers, members]
      rw [shapeAt?, shapeAt?, nodeAt?_cons, nodeAt?_cons]
      cases here : config.own? k with
      | none =>
          rw [here, Option.map_none, eq_comm, Option.map_eq_none_iff] at own
          rw [own]
      | some node =>
          rw [here, Option.map_some, eq_comm, Option.map_eq_some_iff] at own
          obtain ⟨node', there, written⟩ := own
          rw [there, Option.bind_some, Option.bind_some]
          have shapes := Node.shape_eq_of_toJson written
          cases node' with
          | scalar value' =>
              cases node with
              | mapping inner => cases shapes
              | scalar value =>
                  cases shapes
                  rfl
          | mapping inner' =>
              cases node with
              | scalar value => cases shapes
              | mapping inner => exact ih written.symm

/-! ## Keys in order -/

/-- Every mapping has its keys in key order, whatever it lies on. -/
def KeyOrdered (config : FlowConfig) : Prop :=
  ∀ path keys, config.keysAt? path = some keys → KeyOrder.Ordered keys

theorem keysAt?_eq_some_iff {keys : List String} :
    config.keysAt? path = some keys ↔
      ∃ inner, config.nodeAt? path = some (.mapping inner) ∧ inner.keys = keys := by
  unfold keysAt?
  rcases config.nodeAt? path with _ | ⟨value⟩ | ⟨inner⟩ <;> simp [Node.keys?]

theorem InOrder.keyOrdered (inOrder : config.InOrder) : config.KeyOrdered := by
  intro path keys found
  obtain ⟨inner, there, rfl⟩ := keysAt?_eq_some_iff.1 found
  exact (inOrder path inner there).2

theorem tidy_ownOnly (plain : config.Plain) (ordered : config.KeyOrdered) :
    config.ownOnly.Tidy := by
  refine ⟨plain.ownOnly, fun path inner found => ?_⟩
  rw [nodeAt?_ownOnly] at found
  obtain ⟨node, there, own⟩ := Option.map_eq_some_iff.1 found
  cases node with
  | scalar value => cases own
  | mapping base =>
      cases own
      rw [keys_ownOnly]
      exact ⟨lowest_ownOnly, ordered path base.keys (keysAt?_eq_some_iff.2 ⟨base, there, rfl⟩)⟩

/-- A copy is the own entries. -/
theorem clone_eq_ownOnly (plain : config.Plain) (ordered : config.KeyOrdered) :
    config.clone = config.ownOnly := by
  rw [← clone_ownOnly, (tidy_ownOnly plain ordered).clone_eq]

/-- **A copy is written like its original.** -/
theorem toJson_clone (plain : config.Plain) (ordered : config.KeyOrdered) :
    config.clone.toJson = config.toJson := by
  rw [clone_eq_ownOnly plain ordered, toJson, toMembers_ownOnly, toJson]

end FlowConfig

end ManualTraffic
