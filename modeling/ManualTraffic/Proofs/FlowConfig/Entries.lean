/-
# ManualTraffic.Proofs.FlowConfig.Entries -- what writing and copying do to entries

A write is known by what it does to the entries of a mapping: `own?_put` says that
the key gets the node and every other key keeps its own.  From it follows what a
copy holds (`own?_clone`): under every key a copy of the node that stood there.

Both speak of *plain* configurations.  No mapping holds a key twice, at any depth
(`Distinct`): no text reads as one that does, and no write makes one.  And no
mapping holds an entry under the reserved key (`LayerFree`), so that nothing is ever
written to a layer.  What a plain configuration lies on is left open.  A copy of it
is *fresh* (`Plain.clone`): it lies on the common root, where a mapping is read under
a key exactly when the key's own entry is one (`read_of_lowest`), since the functions
of the root are no mappings.
-/
import ManualTraffic.FlowConfig.Basic

namespace ManualTraffic

set_option autoImplicit false

namespace FlowConfig

variable {config copy inner rest : FlowConfig} {key k : String} {node other : Node}

/-! ## Entry by entry -/

/-- A configuration is its entries, one in front of the other, on what is lowest. -/
@[elab_as_elim]
theorem entryInduction {motive : FlowConfig → Prop} (root : motive .root) (bare : motive .bare)
    (layered : ∀ layer, motive (.over layer))
    (entry : ∀ key node rest, (∀ inner, node = .mapping inner → motive inner) → motive rest →
      motive (entry key node rest))
    (config : FlowConfig) : motive config := by
  induction config with
  | root => exact root
  | bare => exact bare
  | «over» layer => exact layered layer
  | scalar key value rest ih => exact entry key (.scalar value) rest nofun ih
  | mapping key inner rest below ih =>
      exact entry key (.mapping inner) rest (fun _ same => Node.mapping.inj same ▸ below) ih

theorem own?_entry :
    (entry key node rest).own? k = if key = k then some node else rest.own? k := by
  cases node <;> rfl

theorem find?_entry :
    (entry key node rest).find? k = if key = k then some node else rest.find? k := by
  cases node <;> rfl

theorem reachesRoot_entry : (entry key node rest).reachesRoot = rest.reachesRoot := by
  cases node <;> rfl

theorem setLayer_entry :
    (entry key node rest).setLayer other = entry key node (rest.setLayer other) := by
  cases node <;> rfl

theorem insert_entry :
    (entry k other rest).insert key node =
      if KeyOrder.precedes key k then entry key node (entry k other rest)
      else entry k other (rest.insert key node) := by
  cases other <;> rfl

theorem replace_entry :
    (entry k other rest).replace key node =
      if k = key then entry key node rest else entry k other (rest.replace key node) := by
  cases other <;> rfl

theorem cloneInto_entry :
    cloneInto copy (entry key node rest) = cloneInto (copy.put key node.clone) rest := by
  cases node <;> rfl

/-! ## Plain configurations -/

/-- No mapping holds a key twice. -/
def Distinct : FlowConfig → Prop
  | .root | .bare | .over _ => True
  | .scalar key _ rest => rest.own? key = none ∧ rest.Distinct
  | .mapping key inner rest => rest.own? key = none ∧ inner.Distinct ∧ rest.Distinct

/-- No mapping holds an entry under the reserved key. -/
def LayerFree : FlowConfig → Prop
  | .root | .bare | .over _ => True
  | .scalar key _ rest => key ≠ layerKey ∧ rest.LayerFree
  | .mapping key inner rest => key ≠ layerKey ∧ inner.LayerFree ∧ rest.LayerFree

instance decidableDistinct : (config : FlowConfig) → Decidable config.Distinct
  | .root | .bare | .over _ => isTrue trivial
  | .scalar key _ rest =>
      have := decidableDistinct rest
      inferInstanceAs (Decidable (rest.own? key = none ∧ rest.Distinct))
  | .mapping key inner rest =>
      have := decidableDistinct inner
      have := decidableDistinct rest
      inferInstanceAs (Decidable (rest.own? key = none ∧ inner.Distinct ∧ rest.Distinct))

instance decidableLayerFree : (config : FlowConfig) → Decidable config.LayerFree
  | .root | .bare | .over _ => isTrue trivial
  | .scalar key _ rest =>
      have := decidableLayerFree rest
      inferInstanceAs (Decidable (key ≠ layerKey ∧ rest.LayerFree))
  | .mapping key inner rest =>
      have := decidableLayerFree inner
      have := decidableLayerFree rest
      inferInstanceAs (Decidable (key ≠ layerKey ∧ inner.LayerFree ∧ rest.LayerFree))

/-- A configuration that is a tree of entries and nothing else: no key stands twice,
and none is the reserved one. -/
structure Plain (config : FlowConfig) : Prop where
  distinct : config.Distinct
  layerFree : config.LayerFree

instance (config : FlowConfig) : Decidable config.Plain :=
  decidable_of_iff (config.Distinct ∧ config.LayerFree)
    ⟨fun ⟨distinct, layerFree⟩ => ⟨distinct, layerFree⟩, fun plain => ⟨plain.1, plain.2⟩⟩

namespace Node

def Distinct : Node → Prop
  | .scalar _ => True
  | .mapping config => config.Distinct

def LayerFree : Node → Prop
  | .scalar _ => True
  | .mapping config => config.LayerFree

/-- The mapping that a node may be is plain. -/
def Plain (node : Node) : Prop := node.Distinct ∧ node.LayerFree

theorem plain_mapping : (Node.mapping inner).Plain ↔ inner.Plain :=
  ⟨fun ⟨distinct, layerFree⟩ => ⟨distinct, layerFree⟩,
    fun ⟨distinct, layerFree⟩ => ⟨distinct, layerFree⟩⟩

end Node

theorem distinct_entry :
    (entry key node rest).Distinct ↔ rest.own? key = none ∧ node.Distinct ∧ rest.Distinct := by
  cases node <;> simp [entry, Distinct, Node.Distinct]

theorem layerFree_entry :
    (entry key node rest).LayerFree ↔ key ≠ layerKey ∧ node.LayerFree ∧ rest.LayerFree := by
  cases node <;> simp [entry, LayerFree, Node.LayerFree]

theorem distinct_of_own? (distinct : config.Distinct) (found : config.own? k = some node) :
    node.Distinct := by
  induction config using entryInduction with
  | root | bare | layered => simp [own?] at found
  | entry key first rest _ ih =>
      obtain ⟨-, firstDistinct, restDistinct⟩ := distinct_entry.1 distinct
      rw [own?_entry] at found
      split at found
      · cases found
        exact firstDistinct
      · exact ih restDistinct found

theorem layerFree_of_own? (layerFree : config.LayerFree) (found : config.own? k = some node) :
    k ≠ layerKey ∧ node.LayerFree := by
  induction config using entryInduction with
  | root | bare | layered => simp [own?] at found
  | entry key first rest _ ih =>
      obtain ⟨free, firstFree, restFree⟩ := layerFree_entry.1 layerFree
      rw [own?_entry] at found
      split at found
      · rename_i same
        cases found
        exact ⟨same ▸ free, firstFree⟩
      · exact ih restFree found

theorem own?_layerKey (layerFree : config.LayerFree) : config.own? layerKey = none := by
  cases own : config.own? layerKey with
  | none => rfl
  | some node => exact absurd rfl (layerFree_of_own? layerFree own).1

theorem own?_layerKey_entry :
    (entry key node rest).own? layerKey = none ↔ key ≠ layerKey ∧ rest.own? layerKey = none := by
  rw [own?_entry]
  by_cases reserved : key = layerKey <;> simp [reserved]

theorem plain_entry :
    (entry key node rest).Plain ↔
      key ≠ layerKey ∧ rest.own? key = none ∧ node.Plain ∧ rest.Plain := by
  constructor
  · rintro ⟨distinct, layerFree⟩
    obtain ⟨fresh, nodeDistinct, restDistinct⟩ := distinct_entry.1 distinct
    obtain ⟨free, nodeFree, restFree⟩ := layerFree_entry.1 layerFree
    exact ⟨free, fresh, ⟨nodeDistinct, nodeFree⟩, restDistinct, restFree⟩
  · rintro ⟨free, fresh, nodePlain, restPlain⟩
    exact ⟨distinct_entry.2 ⟨fresh, nodePlain.1, restPlain.distinct⟩,
      layerFree_entry.2 ⟨free, nodePlain.2, restPlain.layerFree⟩⟩

theorem Plain.of_own? (plain : config.Plain) (found : config.own? k = some node) :
    node.Plain :=
  ⟨distinct_of_own? plain.distinct found, (layerFree_of_own? plain.layerFree found).2⟩

/-! ## Writing -/

theorem own?_insert (absent : config.own? key = none) :
    (config.insert key node).own? k = if key = k then some node else config.own? k := by
  induction config using entryInduction with
  | root | bare | layered => exact own?_entry
  | entry first value rest _ ih =>
      rw [own?_entry] at absent
      have ne : first ≠ key := by
        rintro rfl
        simp at absent
      rw [if_neg ne] at absent
      rw [insert_entry]
      split
      · exact own?_entry
      · rw [own?_entry, own?_entry, ih absent]
        by_cases hit : first = k
        · rw [if_pos hit, if_pos hit, if_neg (hit ▸ ne.symm)]
        · rw [if_neg hit, if_neg hit]

theorem own?_replace_self (present : (config.own? key).isSome) :
    (config.replace key node).own? key = some node := by
  induction config using entryInduction with
  | root | bare | layered => simp [own?] at present
  | entry first value rest _ ih =>
      rw [replace_entry]
      split
      · rw [own?_entry, if_pos rfl]
      · rename_i ne
        rw [own?_entry, if_neg ne] at present
        rw [own?_entry, if_neg ne, ih present]

theorem own?_replace_ne (ne : key ≠ k) : (config.replace key node).own? k = config.own? k := by
  induction config using entryInduction with
  | root | bare | layered => rfl
  | entry first value rest _ ih =>
      rw [replace_entry]
      split
      · rename_i same
        rw [own?_entry, own?_entry, if_neg ne, if_neg (same ▸ ne)]
      · rw [own?_entry, own?_entry, ih]

theorem own?_setLayer : (config.setLayer node).own? k = config.own? k := by
  induction config using entryInduction with
  | root | bare | layered =>
      cases node with
      | mapping => rfl
      | scalar value => cases value <;> rfl
  | entry first value rest _ ih => rw [setLayer_entry, own?_entry, own?_entry, ih]

/-- Writing a key gives it the node and leaves every other key alone. -/
theorem own?_put (free : key ≠ layerKey) :
    (config.put key node).own? k = if key = k then some node else config.own? k := by
  unfold put
  split
  · rename_i present
    by_cases hit : key = k
    · rw [if_pos hit, ← hit, own?_replace_self present]
    · rw [if_neg hit, own?_replace_ne hit]
  · rename_i absent
    rw [if_neg fun reserved => free reserved.1]
    exact own?_insert (by simpa using absent)

theorem distinct_insert (absent : config.own? key = none) (nodeDistinct : node.Distinct)
    (distinct : config.Distinct) : (config.insert key node).Distinct := by
  induction config using entryInduction with
  | root | bare | layered => exact distinct_entry.2 ⟨absent, nodeDistinct, distinct⟩
  | entry first value rest _ ih =>
      obtain ⟨fresh, valueDistinct, restDistinct⟩ := distinct_entry.1 distinct
      rw [insert_entry]
      split
      · exact distinct_entry.2 ⟨absent, nodeDistinct, distinct⟩
      · rw [own?_entry] at absent
        have ne : key ≠ first := by
          rintro rfl
          simp at absent
        rw [if_neg ne.symm] at absent
        refine distinct_entry.2 ⟨?_, valueDistinct, ih absent restDistinct⟩
        rw [own?_insert absent, if_neg ne, fresh]

theorem distinct_replace (nodeDistinct : node.Distinct) (distinct : config.Distinct) :
    (config.replace key node).Distinct := by
  induction config using entryInduction with
  | root | bare | layered => exact distinct
  | entry first value rest _ ih =>
      obtain ⟨fresh, valueDistinct, restDistinct⟩ := distinct_entry.1 distinct
      rw [replace_entry]
      split
      · rename_i same
        exact distinct_entry.2 ⟨same ▸ fresh, nodeDistinct, restDistinct⟩
      · rename_i ne
        refine distinct_entry.2 ⟨?_, valueDistinct, ih restDistinct⟩
        rw [own?_replace_ne (Ne.symm ne), fresh]

theorem distinct_setLayer (distinct : config.Distinct) : (config.setLayer node).Distinct := by
  induction config using entryInduction with
  | root | bare | layered =>
      cases node with
      | mapping => trivial
      | scalar value => cases value <;> trivial
  | entry first value rest _ ih =>
      obtain ⟨fresh, valueDistinct, restDistinct⟩ := distinct_entry.1 distinct
      rw [setLayer_entry]
      exact distinct_entry.2 ⟨own?_setLayer.trans fresh, valueDistinct, ih restDistinct⟩

/-- No write makes a key stand twice. -/
theorem distinct_put (nodeDistinct : node.Distinct) (distinct : config.Distinct) :
    (config.put key node).Distinct := by
  unfold put
  split
  · exact distinct_replace nodeDistinct distinct
  · rename_i absent
    split
    · exact distinct_setLayer distinct
    · exact distinct_insert (by simpa using absent) nodeDistinct distinct

theorem layerFree_insert (free : key ≠ layerKey) (nodeFree : node.LayerFree)
    (layerFree : config.LayerFree) : (config.insert key node).LayerFree := by
  induction config using entryInduction with
  | root | bare | layered => exact layerFree_entry.2 ⟨free, nodeFree, layerFree⟩
  | entry first value rest _ ih =>
      obtain ⟨firstFree, valueFree, restFree⟩ := layerFree_entry.1 layerFree
      rw [insert_entry]
      split
      · exact layerFree_entry.2 ⟨free, nodeFree, layerFree⟩
      · exact layerFree_entry.2 ⟨firstFree, valueFree, ih restFree⟩

theorem layerFree_replace (nodeFree : node.LayerFree) (layerFree : config.LayerFree) :
    (config.replace key node).LayerFree := by
  induction config using entryInduction with
  | root | bare | layered => exact layerFree
  | entry first value rest _ ih =>
      obtain ⟨firstFree, valueFree, restFree⟩ := layerFree_entry.1 layerFree
      rw [replace_entry]
      split
      · rename_i same
        exact layerFree_entry.2 ⟨same ▸ firstFree, nodeFree, restFree⟩
      · exact layerFree_entry.2 ⟨firstFree, valueFree, ih restFree⟩

theorem layerFree_put (free : key ≠ layerKey) (nodeFree : node.LayerFree)
    (layerFree : config.LayerFree) : (config.put key node).LayerFree := by
  unfold put
  split
  · exact layerFree_replace nodeFree layerFree
  · rw [if_neg fun reserved => free reserved.1]
    exact layerFree_insert free nodeFree layerFree

/-! ## What a configuration lies on -/

/-- The end of a configuration, below its own entries. -/
def lowest : FlowConfig → FlowConfig
  | .scalar _ _ rest => rest.lowest
  | .mapping _ _ rest => rest.lowest
  | lowest => lowest

theorem lowest_entry : (entry key node rest).lowest = rest.lowest := by
  cases node <;> rfl

theorem lowest_insert : (config.insert key node).lowest = config.lowest := by
  induction config using entryInduction with
  | root | bare | layered => exact lowest_entry
  | entry first value rest _ ih =>
      rw [insert_entry]
      split
      · rw [lowest_entry]
      · rw [lowest_entry, lowest_entry, ih]

theorem lowest_replace : (config.replace key node).lowest = config.lowest := by
  induction config using entryInduction with
  | root | bare | layered => rfl
  | entry first value rest _ ih =>
      rw [replace_entry]
      split
      · rw [lowest_entry, lowest_entry]
      · rw [lowest_entry, lowest_entry, ih]

/-- Only a write of the reserved key touches a layer. -/
theorem lowest_put (free : key ≠ layerKey) : (config.put key node).lowest = config.lowest := by
  unfold put
  split
  · exact lowest_replace
  · rw [if_neg fun reserved => free reserved.1]
    exact lowest_insert

theorem find?_of_lowest (onRoot : config.lowest = .root) : config.find? k = config.own? k := by
  induction config using entryInduction with
  | root => rfl
  | bare => rfl
  | layered => simp [lowest] at onRoot
  | entry first value rest _ ih =>
      rw [lowest_entry] at onRoot
      rw [find?_entry, own?_entry, ih onRoot]

theorem reachesRoot_of_lowest (onRoot : config.lowest = .root) : config.reachesRoot = true := by
  induction config using entryInduction with
  | root => rfl
  | bare | layered => simp [lowest] at onRoot
  | entry key node rest _ ih =>
      rw [lowest_entry] at onRoot
      rw [reachesRoot_entry, ih onRoot]

/-- On the common root a key reads as its own entry; without one there is a function of
the root or nothing, and neither is a mapping. -/
theorem read_of_lowest (onRoot : config.lowest = .root) (free : key ≠ layerKey) :
    config.read key =
      match config.own? key with
      | some (.scalar value) => .scalar value
      | some (.mapping inner) => .mapping inner
      | none => if rootFunctions.contains key then .function else .nothing := by
  have found : config.find? key = config.own? key := find?_of_lowest onRoot
  cases own : config.own? key with
  | none => simp only [read, found, own, reachesRoot_of_lowest onRoot, if_true, free, if_false]
  | some node => cases node <;> simp only [read, found, own]

theorem own?_of_read_mapping (onRoot : config.lowest = .root) (free : key ≠ layerKey)
    (reads : config.read key = .mapping inner) : config.own? key = some (.mapping inner) := by
  rw [read_of_lowest onRoot free] at reads
  split at reads
  · cases reads
  · rename_i own
    cases reads
    exact own
  · split at reads <;> cases reads

theorem own?_of_read_scalar {value : Scalar} (onRoot : config.lowest = .root)
    (free : key ≠ layerKey) (reads : config.read key = .scalar value) :
    config.own? key = some (.scalar value) := by
  rw [read_of_lowest onRoot free] at reads
  split at reads
  · rename_i own
    cases reads
    exact own
  · cases reads
  · split at reads <;> cases reads

/-! ## Copies -/

theorem lowest_cloneInto (free : config.own? layerKey = none) :
    (cloneInto copy config).lowest = copy.lowest := by
  induction config using entryInduction generalizing copy with
  | root | bare | layered => rfl
  | entry key node rest _ ih =>
      obtain ⟨keyFree, restFree⟩ := own?_layerKey_entry.1 free
      rw [cloneInto_entry, ih restFree, lowest_put keyFree]

theorem own?_cloneInto (plain : config.Plain) :
    (cloneInto copy config).own? k = ((config.own? k).map Node.clone).or (copy.own? k) := by
  induction config using entryInduction generalizing copy with
  | root | bare | layered => rfl
  | entry key node rest _ ih =>
      obtain ⟨free, fresh, -, restPlain⟩ := plain_entry.1 plain
      rw [cloneInto_entry, ih restPlain, own?_put free, own?_entry]
      by_cases hit : key = k
      · subst hit
        simp [fresh]
      · simp [hit]

/-- A copy of a plain configuration holds, under every key, a copy of the node. -/
theorem own?_clone (plain : config.Plain) :
    config.clone.own? k = (config.own? k).map Node.clone := by
  rw [clone, own?_cloneInto plain]
  simp [own?]

theorem distinct_cloneInto (distinct : copy.Distinct) : (cloneInto copy config).Distinct := by
  induction config using entryInduction generalizing copy with
  | root | bare | layered => exact distinct
  | entry key node rest below ih =>
      rw [cloneInto_entry]
      apply ih
      cases node with
      | scalar value => exact distinct_put trivial distinct
      | mapping inner =>
          have innerDistinct : inner.clone.Distinct := below inner rfl trivial
          exact distinct_put innerDistinct distinct

theorem layerFree_cloneInto (layerFree : config.LayerFree) (copyFree : copy.LayerFree) :
    (cloneInto copy config).LayerFree := by
  induction config using entryInduction generalizing copy with
  | root | bare | layered => exact copyFree
  | entry key node rest below ih =>
      obtain ⟨free, nodeFree, restFree⟩ := layerFree_entry.1 layerFree
      rw [cloneInto_entry]
      apply ih restFree
      cases node with
      | scalar value => exact layerFree_put free trivial copyFree
      | mapping inner =>
          have innerFree : inner.clone.LayerFree := below inner rfl nodeFree trivial
          exact layerFree_put free innerFree copyFree

/-! ## Copies and the reserved key -/

theorem layerFree_setLayer (layerFree : config.LayerFree) : (config.setLayer node).LayerFree := by
  induction config using entryInduction with
  | root | bare | layered =>
      cases node with
      | mapping => trivial
      | scalar value => cases value <;> trivial
  | entry first value rest _ ih =>
      obtain ⟨firstFree, valueFree, restFree⟩ := layerFree_entry.1 layerFree
      rw [setLayer_entry]
      exact layerFree_entry.2 ⟨firstFree, valueFree, ih restFree⟩

/-- On the common root the reserved key is written to the layer, and no entry is made. -/
theorem layerFree_put_layerKey (layerFree : config.LayerFree) (onRoot : config.lowest = .root) :
    (config.put layerKey node).LayerFree := by
  have absent : config.own? layerKey = none := own?_layerKey layerFree
  have below : config.find? layerKey = none := (find?_of_lowest onRoot).trans absent
  unfold put
  rw [absent, if_neg (by simp), if_pos ⟨rfl, reachesRoot_of_lowest onRoot, below⟩]
  exact layerFree_setLayer layerFree

/-- The reserved key stands in a mapping once.  Until it comes the copy lies on the common
root, and when it comes it moves the copy and leaves no entry. -/
theorem layerFree_cloneInto_of_distinct (distinct : config.Distinct) (copyFree : copy.LayerFree)
    (movable : copy.lowest = .root ∨ config.own? layerKey = none) :
    (cloneInto copy config).LayerFree := by
  induction config using entryInduction generalizing copy with
  | root | bare | layered => exact copyFree
  | entry key node rest below ih =>
      obtain ⟨fresh, nodeDistinct, restDistinct⟩ := distinct_entry.1 distinct
      rw [cloneInto_entry]
      by_cases reserved : key = layerKey
      · subst reserved
        rw [own?_entry, if_pos rfl] at movable
        have onRoot := movable.resolve_right nofun
        exact ih restDistinct (layerFree_put_layerKey copyFree onRoot) (.inr fresh)
      · have nodeFree : node.clone.LayerFree := by
          cases node with
          | scalar value => trivial
          | mapping inner => exact below inner rfl nodeDistinct trivial (.inl rfl)
        rw [own?_entry, if_neg reserved] at movable
        refine ih restDistinct (layerFree_put reserved nodeFree copyFree) ?_
        rwa [lowest_put reserved]

/-- A copy is plain, whatever keys its original has. -/
theorem plain_clone (distinct : config.Distinct) : config.clone.Plain :=
  ⟨distinct_cloneInto trivial, layerFree_cloneInto_of_distinct distinct trivial (.inl rfl)⟩

/-! ## Fresh configurations -/

/-- A plain configuration on the common root, as a copy of a plain one is. -/
structure Fresh (config : FlowConfig) : Prop extends Plain config where
  onRoot : config.lowest = .root

theorem Plain.clone (plain : config.Plain) : config.clone.Fresh :=
  ⟨⟨distinct_cloneInto trivial, layerFree_cloneInto plain.layerFree trivial⟩,
    lowest_cloneInto (own?_layerKey plain.layerFree)⟩

theorem Node.Plain.clone (plain : node.Plain) : node.clone.Plain := by
  cases node with
  | scalar value => exact plain
  | mapping inner => exact Node.plain_mapping.2 (Node.plain_mapping.1 plain).clone.toPlain

theorem Fresh.put (fresh : config.Fresh) (free : key ≠ layerKey) (nodePlain : node.Plain) :
    (config.put key node).Fresh :=
  ⟨⟨distinct_put nodePlain.1 fresh.distinct, layerFree_put free nodePlain.2 fresh.layerFree⟩,
    (lowest_put free).trans fresh.onRoot⟩

end FlowConfig

end ManualTraffic
