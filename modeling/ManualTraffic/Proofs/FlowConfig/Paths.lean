/-
# ManualTraffic.Proofs.FlowConfig.Paths -- what stands along the paths of a configuration

A configuration can be looked at from outside: at each path stands a node or none
(`nodeAt?`), a node is known by its shape (`shapeAt?`), and a mapping by its keys in
their order (`keysAt?`).  A copy shows the same nodes, copied (`nodeAt?_clone`).

A plain configuration is *tidy* when every mapping in it lies on the common root and has
its keys in key order: nothing but its entries tells one mapping from another, and no
write would move them.  Copies are tidy (`Plain.tidy_clone`), a tidy configuration is its
own copy (`Tidy.clone_eq`), and two of them with the same shapes and keys are the same
(`Tidy.eq_of_paths`).
-/
import ManualTraffic.Proofs.FlowConfig.Entries
import ManualTraffic.Proofs.KeyOrder

namespace ManualTraffic

set_option autoImplicit false

namespace FlowConfig

variable {config copy inner rest other : FlowConfig} {key k : String} {path : List String}
  {node : Node}

/-! ## Nodes -/

/-- The node at a path that starts at a node. -/
def Node.nodeAt? : Node → List String → Option Node
  | .scalar value, [] => some (.scalar value)
  | .scalar _, _ :: _ => none
  | .mapping config, path => config.nodeAt? path

theorem nodeAt?_nil : config.nodeAt? [] = some (.mapping config) := by
  rw [nodeAt?]

theorem Node.nodeAt?_nil : node.nodeAt? [] = some node := by
  cases node with
  | scalar value => rfl
  | mapping inner => exact FlowConfig.nodeAt?_nil

theorem nodeAt?_cons :
    config.nodeAt? (k :: path) = (config.own? k).bind fun node => node.nodeAt? path := by
  rw [nodeAt?]
  cases config.own? k with
  | none => rfl
  | some node =>
      cases node with
      | mapping inner => rfl
      | scalar value => cases path <;> rfl

theorem Plain.of_nodeAt? (plain : config.Plain) (found : config.nodeAt? path = some node) :
    node.Plain := by
  induction path generalizing config with
  | nil =>
      rw [nodeAt?_nil] at found
      cases found
      exact Node.plain_mapping.2 plain
  | cons k path ih =>
      rw [nodeAt?_cons] at found
      obtain ⟨first, own, later⟩ := Option.bind_eq_some_iff.1 found
      have firstPlain := plain.of_own? own
      cases first with
      | mapping inner => exact ih (Node.plain_mapping.1 firstPlain) later
      | scalar value =>
          cases path with
          | nil =>
              cases later
              exact firstPlain
          | cons => cases later

/-- A copy shows copies of the nodes. -/
theorem nodeAt?_clone (plain : config.Plain) :
    config.clone.nodeAt? path = (config.nodeAt? path).map Node.clone := by
  induction path generalizing config with
  | nil => simp only [nodeAt?_nil, Option.map_some, Node.clone]
  | cons k path ih =>
      rw [nodeAt?_cons, nodeAt?_cons, own?_clone plain]
      cases found : config.own? k with
      | none => rfl
      | some node =>
          cases node with
          | mapping inner => exact ih (Node.plain_mapping.1 (plain.of_own? found))
          | scalar value => cases path <;> rfl

theorem Node.nodeAt?_clone (plain : node.Plain) :
    node.clone.nodeAt? path = (node.nodeAt? path).map Node.clone := by
  cases node with
  | mapping inner => exact FlowConfig.nodeAt?_clone (Node.plain_mapping.1 plain)
  | scalar value => cases path <;> rfl

/-- A path can be taken in two parts. -/
theorem nodeAt?_append {more : List String} :
    config.nodeAt? (path ++ more) = (config.nodeAt? path).bind fun node => node.nodeAt? more := by
  induction path generalizing config with
  | nil =>
      rw [List.nil_append, nodeAt?_nil]
      rfl
  | cons k path ih =>
      rw [List.cons_append, nodeAt?_cons, nodeAt?_cons]
      rcases config.own? k with _ | ⟨value⟩ | ⟨inner⟩
      · rfl
      · cases path <;> rfl
      · exact ih

/-- Behind its first entry a mapping shows what it shows, that entry aside. -/
theorem nodeAt?_tail (node : Node) (fresh : rest.own? key = none) :
    rest.nodeAt? (k :: path) =
      if key = k then none else (entry key node rest).nodeAt? (k :: path) := by
  rw [nodeAt?_cons, nodeAt?_cons, own?_entry]
  split
  · rename_i same
    rw [← same, fresh]
    rfl
  · rfl

/-! ## Shapes -/

/-- What stands at a path, the content of a mapping aside. -/
inductive Shape where
  | scalar (value : Scalar)
  | mapping
  deriving DecidableEq

def Node.shape : Node → Shape
  | .scalar value => .scalar value
  | .mapping _ => .mapping

/-- The shape of the node at a path. -/
def shapeAt? (config : FlowConfig) (path : List String) : Option Shape :=
  (config.nodeAt? path).map Node.shape

theorem Node.shape_clone : node.clone.shape = node.shape := by
  cases node <;> rfl

theorem shapeAt?_clone (plain : config.Plain) :
    config.clone.shapeAt? path = config.shapeAt? path := by
  rw [shapeAt?, nodeAt?_clone plain, Option.map_map, shapeAt?]
  exact congrArg (fun shape => (config.nodeAt? path).map shape) (funext fun _ => Node.shape_clone)

theorem Node.map_shape_eq_scalar_iff {there : Option Node} {value : Scalar} :
    there.map shape = some (.scalar value) ↔ there = some (.scalar value) := by
  rcases there with _ | ⟨other⟩ | ⟨inner⟩ <;> simp [shape]

theorem shapeAt?_eq_scalar_iff {value : Scalar} :
    config.shapeAt? path = some (.scalar value) ↔
      config.nodeAt? path = some (.scalar value) := Node.map_shape_eq_scalar_iff

theorem isSome_shapeAt? (config : FlowConfig) :
    (config.shapeAt? path).isSome = (config.nodeAt? path).isSome := Option.isSome_map

theorem shapeAt?_eq_mapping_iff (config : FlowConfig) :
    config.shapeAt? path = some .mapping ↔
      ∃ inner, config.nodeAt? path = some (.mapping inner) := by
  unfold shapeAt?
  rcases config.nodeAt? path with _ | ⟨value⟩ | ⟨inner⟩ <;> simp [Node.shape]

theorem shapeAt?_singleton : config.shapeAt? [k] = (config.own? k).map Node.shape := by
  rw [shapeAt?, nodeAt?_cons]
  cases config.own? k with
  | none => rfl
  | some node => rw [Option.bind_some, Node.nodeAt?_nil]

theorem shapeAt?_under (own : config.own? k = some (.mapping inner)) :
    config.shapeAt? (k :: path) = inner.shapeAt? path := by
  rw [shapeAt?, nodeAt?_cons, own]
  rfl

/-! ## Keys -/

/-- The keys of a mapping, in order. -/
def keys (config : FlowConfig) : List String := config.entries.map Prod.fst

def Node.keys? : Node → Option (List String)
  | .scalar _ => none
  | .mapping config => some config.keys

/-- The keys of the mapping at a path. -/
def keysAt? (config : FlowConfig) (path : List String) : Option (List String) :=
  (config.nodeAt? path).bind Node.keys?

theorem keys_entry : (entry key node rest).keys = key :: rest.keys := by
  cases node <;> rfl

theorem mem_keys : k ∈ config.keys ↔ (config.own? k).isSome := by
  induction config using entryInduction with
  | root | bare | layered => simp [keys, entries, own?]
  | entry key node rest _ ih =>
      rw [keys_entry, List.mem_cons, own?_entry, ih]
      split
      · rename_i same
        simp [same]
      · rename_i ne
        simp [Ne.symm ne]

theorem not_mem_keys : k ∉ config.keys ↔ config.own? k = none := by
  rw [mem_keys, Option.not_isSome_iff_eq_none]

theorem nodup_keys (distinct : config.Distinct) : config.keys.Nodup := by
  induction config using entryInduction with
  | root | bare | layered => exact .nil
  | entry key node rest _ ih =>
      obtain ⟨fresh, -, restDistinct⟩ := distinct_entry.1 distinct
      rw [keys_entry]
      exact List.nodup_cons.2 ⟨not_mem_keys.2 fresh, ih restDistinct⟩

theorem keys_insert : (config.insert key node).keys = KeyOrder.place key config.keys := by
  induction config using entryInduction with
  | root | bare | layered => exact keys_entry
  | entry first value rest _ ih =>
      rw [insert_entry, keys_entry, KeyOrder.place]
      split
      · rw [keys_entry, keys_entry]
      · rw [keys_entry, ih]

theorem keys_replace : (config.replace key node).keys = config.keys := by
  induction config using entryInduction with
  | root | bare | layered => rfl
  | entry first value rest _ ih =>
      rw [replace_entry]
      split
      · rename_i same
        rw [keys_entry, keys_entry, same]
      · rw [keys_entry, keys_entry, ih]

theorem keys_put (free : key ≠ layerKey) :
    (config.put key node).keys = KeyOrder.add config.keys key := by
  simp only [put, KeyOrder.add, mem_keys]
  split
  · exact keys_replace
  · rw [if_neg fun reserved => free reserved.1]
    exact keys_insert

theorem keys_cloneInto (layerFree : config.LayerFree) :
    (cloneInto copy config).keys = KeyOrder.addAll copy.keys config.keys := by
  induction config using entryInduction generalizing copy with
  | root | bare | layered => rfl
  | entry key node rest _ ih =>
      obtain ⟨free, -, restFree⟩ := layerFree_entry.1 layerFree
      rw [cloneInto_entry, ih restFree, keys_put free, keys_entry, KeyOrder.addAll_cons]

theorem keys_clone (layerFree : config.LayerFree) :
    config.clone.keys = KeyOrder.addAll [] config.keys := keys_cloneInto layerFree

theorem Node.keys?_clone (plain : node.Plain) :
    node.clone.keys? = node.keys?.map (KeyOrder.addAll []) := by
  cases node with
  | scalar value => rfl
  | mapping inner => exact congrArg some (keys_clone plain.2)

theorem keysAt?_clone (plain : config.Plain) :
    config.clone.keysAt? path = (config.keysAt? path).map (KeyOrder.addAll []) := by
  rw [keysAt?, nodeAt?_clone plain, keysAt?]
  cases found : config.nodeAt? path with
  | none => rfl
  | some node => exact Node.keys?_clone (plain.of_nodeAt? found)

theorem nodup_keysAt? (plain : config.Plain) :
    ∀ keys, config.keysAt? path = some keys → keys.Nodup := by
  intro keys found
  obtain ⟨node, there, same⟩ := Option.bind_eq_some_iff.1 found
  cases node with
  | scalar value => cases same
  | mapping inner =>
      cases same
      exact nodup_keys (Node.plain_mapping.1 (plain.of_nodeAt? there)).distinct

/-- The keys of a mapping are where the paths through it go on. -/
theorem mem_keysAt? {keys : List String} (there : config.keysAt? path = some keys) :
    k ∈ keys ↔ (config.nodeAt? (path ++ [k])).isSome := by
  obtain ⟨node, found, same⟩ := Option.bind_eq_some_iff.1 there
  cases node with
  | scalar value => cases same
  | mapping inner =>
      cases same
      rw [nodeAt?_append, found, mem_keys, Option.bind_some, Node.nodeAt?, nodeAt?_cons]
      cases inner.own? k with
      | none => rfl
      | some node => rw [Option.bind_some, Node.nodeAt?_nil]

/-! ## Tidy configurations -/

/-- Every mapping lies on the common root and has its keys in key order. -/
def InOrder (config : FlowConfig) : Prop :=
  ∀ path inner, config.nodeAt? path = some (.mapping inner) →
    inner.lowest = .root ∧ KeyOrder.Ordered inner.keys

/-- A plain configuration in order: it is what its entries say, and no more. -/
structure Tidy (config : FlowConfig) : Prop extends Plain config where
  inOrder : config.InOrder

theorem InOrder.lowest_eq (inOrder : config.InOrder) : config.lowest = .root :=
  (inOrder [] config nodeAt?_nil).1

theorem InOrder.keys (inOrder : config.InOrder) : KeyOrder.Ordered config.keys :=
  (inOrder [] config nodeAt?_nil).2

theorem InOrder.of_own? (inOrder : config.InOrder) (own : config.own? k = some (.mapping inner)) :
    inner.InOrder := by
  intro path deeper found
  refine inOrder (k :: path) deeper ?_
  rw [nodeAt?_cons, own]
  exact found

theorem InOrder.of_entries (onRoot : config.lowest = .root) (ordered : KeyOrder.Ordered config.keys)
    (below : ∀ k inner, config.own? k = some (.mapping inner) → inner.InOrder) :
    config.InOrder := by
  intro path deeper found
  cases path with
  | nil =>
      rw [nodeAt?_nil] at found
      cases found
      exact ⟨onRoot, ordered⟩
  | cons k path =>
      rw [nodeAt?_cons] at found
      obtain ⟨node, own, later⟩ := Option.bind_eq_some_iff.1 found
      cases node with
      | mapping inner => exact below k inner own path deeper later
      | scalar value => cases path <;> cases later

theorem InOrder.tail (inOrder : (entry key node rest).InOrder) (fresh : rest.own? key = none) :
    rest.InOrder := by
  intro path deeper found
  cases path with
  | nil =>
      rw [nodeAt?_nil] at found
      cases found
      refine ⟨lowest_entry.symm.trans inOrder.lowest_eq, ?_⟩
      have ordered := inOrder.keys
      rw [keys_entry] at ordered
      exact (List.pairwise_cons.1 ordered).2
  | cons k path =>
      rw [nodeAt?_tail node fresh] at found
      split at found
      · cases found
      · exact inOrder (k :: path) deeper found

theorem Tidy.of_own? (tidy : config.Tidy) (own : config.own? k = some (.mapping inner)) :
    inner.Tidy :=
  ⟨Node.plain_mapping.1 (tidy.toPlain.of_own? own), tidy.inOrder.of_own? own⟩

/-- A copy of a plain configuration is tidy. -/
theorem Plain.tidy_clone (plain : config.Plain) : config.clone.Tidy := by
  refine ⟨plain.clone.toPlain, fun path deeper found => ?_⟩
  rw [nodeAt?_clone plain] at found
  obtain ⟨there, original, copied⟩ := Option.map_eq_some_iff.1 found
  cases there with
  | scalar value => cases copied
  | mapping base =>
      cases copied
      have basePlain := Node.plain_mapping.1 (plain.of_nodeAt? original)
      refine ⟨basePlain.clone.onRoot, ?_⟩
      rw [keys_clone basePlain.layerFree]
      exact KeyOrder.ordered_addAll .nil

theorem eq_root_of_keys (onRoot : config.lowest = .root) (none_there : config.keys = []) :
    config = .root := by
  cases config with
  | root => rfl
  | bare | «over» => cases onRoot
  | scalar | mapping => cases none_there

theorem eq_entry_of_keys {later : List String} (there : config.keys = key :: later) :
    ∃ node rest, config = entry key node rest ∧ rest.keys = later := by
  cases config with
  | root | bare | «over» => cases there
  | scalar k value rest =>
      cases there
      exact ⟨.scalar value, rest, rfl, rfl⟩
  | mapping k inner rest =>
      cases there
      exact ⟨.mapping inner, rest, rfl, rfl⟩

/-- What shows of a node: its shape, and the keys of a mapping. -/
def Node.sight (node : Node) : Shape × Option (List String) := (node.shape, node.keys?)

theorem sight_eq_of_paths (shapes : config.shapeAt? path = other.shapeAt? path)
    (keys : config.keysAt? path = other.keysAt? path) :
    (config.nodeAt? path).map Node.sight = (other.nodeAt? path).map Node.sight := by
  unfold shapeAt? at shapes
  unfold keysAt? at keys
  cases here : config.nodeAt? path <;> cases there : other.nodeAt? path <;>
    simp_all [Node.sight]

theorem Node.eq_of_sight {upper lower : Node} (same : upper.sight = lower.sight)
    (below : ∀ inner inner', upper = .mapping inner → lower = .mapping inner' →
      inner.keys = inner'.keys → inner = inner') : upper = lower := by
  cases upper with
  | scalar value =>
      cases lower with
      | scalar value' =>
          cases same
          rfl
      | mapping inner' => cases same
  | mapping inner =>
      cases lower with
      | scalar value' => cases same
      | mapping inner' =>
          have keys := Option.some.inj (Prod.mk.inj same).2
          exact congrArg Node.mapping (below inner inner' rfl rfl keys)

/-- Tidy configurations that show the same at all paths are the same. -/
theorem Tidy.eq_of_sights (tidy : config.Tidy) (otherTidy : other.Tidy)
    (same : ∀ path, (config.nodeAt? path).map Node.sight = (other.nodeAt? path).map Node.sight)
    (keys : config.keys = other.keys) : config = other := by
  induction config using entryInduction generalizing other with
  | root => exact (eq_root_of_keys otherTidy.inOrder.lowest_eq keys.symm).symm
  | bare | layered => cases tidy.inOrder.lowest_eq
  | entry key node rest below ih =>
      rw [keys_entry] at keys
      obtain ⟨node', rest', rfl, restKeys⟩ := eq_entry_of_keys keys.symm
      obtain ⟨-, fresh, -, restPlain⟩ := plain_entry.1 tidy.toPlain
      obtain ⟨-, fresh', -, restPlain'⟩ := plain_entry.1 otherTidy.toPlain
      have sameRest : rest = rest' := by
        refine ih ⟨restPlain, tidy.inOrder.tail fresh⟩ ⟨restPlain', otherTidy.inOrder.tail fresh'⟩
          (fun path => ?_) restKeys.symm
        cases path with
        | nil =>
            simp only [nodeAt?_nil, Option.map_some, Node.sight, Node.shape, Node.keys?, restKeys]
        | cons k path =>
            rw [nodeAt?_tail node fresh, nodeAt?_tail node' fresh']
            split
            · rfl
            · exact same (k :: path)
      have sameBelow : ∀ path, (node.nodeAt? path).map Node.sight =
          (node'.nodeAt? path).map Node.sight := by
        intro path
        have under := same (key :: path)
        rw [nodeAt?_cons, nodeAt?_cons, own?_entry, own?_entry, if_pos rfl, if_pos rfl] at under
        exact under
      have top := sameBelow []
      rw [Node.nodeAt?_nil, Node.nodeAt?_nil] at top
      have sameNode : node = node' := by
        refine Node.eq_of_sight (Option.some.inj top) ?_
        rintro inner inner' rfl rfl innerKeys
        have own : (entry key (.mapping inner) rest).own? key = some (.mapping inner) := by
          rw [own?_entry, if_pos rfl]
        have own' : (entry key (.mapping inner') rest').own? key = some (.mapping inner') := by
          rw [own?_entry, if_pos rfl]
        exact below inner rfl (tidy.of_own? own) (otherTidy.of_own? own') sameBelow innerKeys
      rw [sameNode, sameRest]

/-- Tidy configurations with the same shapes and the same keys at all paths are the
same. -/
theorem Tidy.eq_of_paths (tidy : config.Tidy) (otherTidy : other.Tidy)
    (shapes : ∀ path, config.shapeAt? path = other.shapeAt? path)
    (keys : ∀ path, config.keysAt? path = other.keysAt? path) : config = other := by
  have top := keys []
  simp only [keysAt?, nodeAt?_nil, Option.bind_some, Node.keys?, Option.some.injEq] at top
  exact tidy.eq_of_sights otherTidy (fun path => sight_eq_of_paths (shapes path) (keys path)) top

/-- A tidy configuration is its own copy. -/
theorem Tidy.clone_eq (tidy : config.Tidy) : config.clone = config := by
  refine tidy.toPlain.tidy_clone.eq_of_paths tidy (fun path => shapeAt?_clone tidy.toPlain)
    fun path => ?_
  rw [keysAt?_clone tidy.toPlain, keysAt?]
  cases found : config.nodeAt? path with
  | none => rfl
  | some node =>
      cases node with
      | scalar value => rfl
      | mapping inner =>
          have innerPlain := Node.plain_mapping.1 (tidy.toPlain.of_nodeAt? found)
          exact congrArg some (KeyOrder.addAll_of_ordered (tidy.inOrder path inner found).2
            (nodup_keys innerPlain.distinct))

end FlowConfig

end ManualTraffic
