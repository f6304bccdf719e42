/-
# ManualTraffic.Proofs.FlowConfig.Untyped -- copies and merges of any values

A flow configuration has no place for an array.  Here copying and merging are said of values of any
kind (`Untyped`): an array counts as a mapping of its items, under their indices, and a mapping is
seen as its own entries and, below them, those of its layers.  A configuration is such a value
(`FlowConfig.untyped`), and what a JSON value loads as is one.
-/
import ManualTraffic.FlowConfig.Json
import ManualTraffic.FlowConfig.Merge
import ManualTraffic.Proofs.FlowConfig.Shown

namespace ManualTraffic

set_option autoImplicit false

/-- A value of any kind. -/
inductive Untyped where
  | scalar (value : Scalar)
  /-- An array: its items under their indices. -/
  | array (own : List (String × Untyped))
  /-- A mapping: its own entries, the entries of the layers below it, the upper ones first, and
  whether the lowest one lies on the common root. -/
  | object (own : List (String × Untyped)) (layers : List (List (String × Untyped))) (rooted : Bool)

namespace Untyped

/-! ## Reading and writing -/

/-- Whether a value is looked into; so is an array. -/
def isMapping : Untyped → Bool
  | .scalar _ => false
  | .array _ | .object .. => true

/-- The mapping that a key is read as, if it is read as one: an entry of the value or of a layer,
else, on the common root, the layer just below for the reserved key.  The functions of the root are
no mappings.  Nothing is ever read through an array: what is read is a copy, and a copy is none. -/
def mapping? (key : String) : Untyped → Option Untyped
  | .scalar _ | .array _ => none
  | .object own layers rooted =>
      match (own :: layers).findSome? (List.lookup key) with
      | some value => if value.isMapping then some value else none
      | none =>
          if rooted ∧ key = FlowConfig.layerKey then
            match layers with
            | [] => some (.object [] [] false)
            | upper :: lower => some (.object upper lower rooted)
          else none

/-- The mapping of some entries and layers, put on another layer: on a mapping, or with null on
nothing.  With any other scalar it stays where it is. -/
def onLayer (own : List (String × Untyped)) (layers : List (List (String × Untyped)))
    (rooted : Bool) : Untyped → Untyped
  | .object upper lower grounded => .object own (upper :: lower) grounded
  | .array items => .object own [items] true
  | .scalar .null => .object own [] false
  | .scalar _ => .object own layers rooted

/-- Writes a key: on the layer when it is the reserved key and the root gives it its meaning, else
as an entry. -/
def put (target : Untyped) (key : String) (value : Untyped) : Untyped :=
  match target with
  | .scalar other => .scalar other
  | .array own => .array (Members.put key value own)
  | .object own layers rooted =>
      if rooted ∧ key = FlowConfig.layerKey ∧ (own :: layers).findSome? (List.lookup key) = none then
        onLayer own layers rooted value
      else .object (Members.put key value own) layers rooted

/-! ## Copies and merges -/

/-- A mapping without entries, on the common root. -/
def empty : Untyped := .object [] [] true

mutual

/-- A copy of a value: a scalar is copied as it is, and all else into fresh mappings. -/
def clone : Untyped → Untyped
  | .scalar value => .scalar value
  | .array own => cloneMembers empty own
  | .object own _ _ => cloneMembers empty own
termination_by structural value => value

/-- Writes copies of members, in order, into `copy`. -/
def cloneMembers (copy : Untyped) : List (String × Untyped) → Untyped
  | [] => copy
  | (key, value) :: rest => cloneMembers (copy.put key value.clone) rest
termination_by structural members => members

end

mutual

/-- Writes the entries of an override over `merged`. -/
def mergeInto (merged : Untyped) (path : String) : Untyped → Except MergeConflict Untyped
  | .scalar _ => .ok merged
  | .array own => mergeMembers merged path own
  | .object own _ _ => mergeMembers merged path own
termination_by structural override => override

/-- Writes members, in order, over `merged`: a mapping over a copy of the mapping that its key is
read as, and all else in its place, where no scalar may meet a mapping. -/
def mergeMembers (merged : Untyped) (path : String) :
    List (String × Untyped) → Except MergeConflict Untyped
  | [] => .ok merged
  | (key, value) :: rest =>
      match merged.mapping? key with
      | some current =>
          if value.isMapping then
            match mergeInto current.clone (FlowConfig.keyPath path key) value with
            | .ok below => mergeMembers (merged.put key below) path rest
            | .error conflict => .error conflict
          else .error ⟨FlowConfig.keyPath path key⟩
      | none => mergeMembers (merged.put key value.clone) path rest
termination_by structural members => members

end

/-- The defaults with the override on top, both standing at `path` of a larger value. -/
def mergeAt (path : String) (defaults override : Untyped) : Except MergeConflict Untyped :=
  mergeInto defaults.clone path override

section

variable {merged current value : Untyped} {path key : String} {rest : List (String × Untyped)}

theorem mergeMembers_below (reads : merged.mapping? key = some current)
    (mapping : value.isMapping = true) : mergeMembers merged path ((key, value) :: rest) =
      (mergeInto current.clone (FlowConfig.keyPath path key) value).bind fun below =>
        mergeMembers (merged.put key below) path rest := by
  rw [mergeMembers, reads]
  dsimp only
  rw [if_pos mapping]
  cases mergeInto current.clone (FlowConfig.keyPath path key) value <;> rfl

theorem mergeMembers_refused (reads : merged.mapping? key = some current)
    (scalar : value.isMapping = false) : mergeMembers merged path ((key, value) :: rest) =
      .error ⟨FlowConfig.keyPath path key⟩ := by
  rw [mergeMembers, reads]
  dsimp only
  rw [if_neg (by simp [scalar])]

theorem mergeMembers_over (reads : merged.mapping? key = none) :
    mergeMembers merged path ((key, value) :: rest) =
      mergeMembers (merged.put key value.clone) path rest := by
  rw [mergeMembers, reads]

end

/-! ## The check -/

mutual

/-- Whether a value may stand in a configuration: it is a scalar, or a mapping of such values. -/
def isValue : Untyped → Bool
  | .scalar _ => true
  | .array _ => false
  | .object own _ _ => areValues own
termination_by structural value => value

/-- Whether all members are such values. -/
def areValues : List (String × Untyped) → Bool
  | [] => true
  | (_, value) :: rest => value.isValue && areValues rest
termination_by structural members => members

end

/-- Whether a value is a configuration: no scalar, no array, and all its own entries are values that
may stand in one. -/
def isConfig : Untyped → Bool
  | .scalar _ | .array _ => false
  | .object own _ _ => areValues own

/-! ## JSON values -/

mutual

/-- The value that a JSON value is loaded as. -/
def ofJson : Json → Untyped
  | .null => .scalar .null
  | .bool value => .scalar (.bool value)
  | .number value => .scalar (.number value)
  | .string value => .scalar (.string value)
  | .array items => .array (ofItems 0 items)
  | .object members => .object (ofMembers members) [] true
termination_by structural value => value

/-- Items under their indices, from `index` on. -/
def ofItems (index : Nat) : List Json → List (String × Untyped)
  | [] => []
  | item :: items => (toString index, ofJson item) :: ofItems (index + 1) items
termination_by structural items => items

/-- Members as they stand. -/
def ofMembers : List (String × Json) → List (String × Untyped)
  | [] => []
  | (key, value) :: members => (key, ofJson value) :: ofMembers members
termination_by structural members => members

end

end Untyped

/-! ## Configurations as values of any kind -/

namespace FlowConfig

open Untyped (mapping?)

variable {config copy inner rest merged override : FlowConfig} {key k path : String} {node : Node}

mutual

/-- The own entries of a configuration. -/
def ownUntyped : FlowConfig → List (String × Untyped)
  | .root | .bare | .over _ => []
  | .scalar key value rest => (key, .scalar value) :: rest.ownUntyped
  | .mapping key inner rest =>
      (key, .object inner.ownUntyped inner.layersUntyped inner.reachesRoot) :: rest.ownUntyped
termination_by structural config => config

/-- The entries of the layers of a configuration, the upper ones first. -/
def layersUntyped : FlowConfig → List (List (String × Untyped))
  | .root | .bare => []
  | .over layer => layer.ownUntyped :: layer.layersUntyped
  | .scalar _ _ rest => rest.layersUntyped
  | .mapping _ _ rest => rest.layersUntyped
termination_by structural config => config

end

/-- A configuration as a value of any kind. -/
def untyped (config : FlowConfig) : Untyped :=
  .object config.ownUntyped config.layersUntyped config.reachesRoot

/-- A node as a value of any kind. -/
def Node.untyped : Node → Untyped
  | .scalar value => .scalar value
  | .mapping config => config.untyped

theorem ownUntyped_eq : config.ownUntyped = Members.mapValues Node.untyped config.entries := by
  induction config using entryInduction with
  | root | bare | layered => rfl
  | entry key node rest _ ih =>
      rw [entries_entry, Members.mapValues_cons, ← ih]
      cases node <;> rfl

theorem ownUntyped_entry :
    (entry key node rest).ownUntyped = (key, node.untyped) :: rest.ownUntyped := by
  cases node <;> rfl

theorem layersUntyped_entry : (entry key node rest).layersUntyped = rest.layersUntyped := by
  cases node <;> rfl

theorem layersUntyped_lowest : config.lowest.layersUntyped = config.layersUntyped := by
  induction config using entryInduction with
  | root | bare | layered => rfl
  | entry key node rest _ ih => rw [lowest_entry, layersUntyped_entry, ih]

theorem reachesRoot_lowest : config.lowest.reachesRoot = config.reachesRoot := by
  induction config using entryInduction with
  | root | bare | layered => rfl
  | entry key node rest _ ih => rw [lowest_entry, reachesRoot_entry, ih]

theorem layer_lowest : config.lowest.layer = config.layer := by
  induction config using entryInduction with
  | root | bare | layered => rfl
  | entry key node rest _ ih => cases node <;> exact ih

theorem lowest_cases (config : FlowConfig) :
    config.lowest = .root ∨ config.lowest = .bare ∨ ∃ layer, config.lowest = .over layer := by
  induction config using entryInduction with
  | root => exact .inl rfl
  | bare => exact .inr (.inl rfl)
  | layered layer => exact .inr (.inr ⟨layer, rfl⟩)
  | entry key node rest _ ih => rwa [lowest_entry]

/-! ## Reading -/

theorem findSome?_entry (node : Node)
    (ih : (rest.ownUntyped :: rest.layersUntyped).findSome? (List.lookup k) =
      (rest.find? k).map Node.untyped) :
    ((entry key node rest).ownUntyped :: (entry key node rest).layersUntyped).findSome?
      (List.lookup k) = ((entry key node rest).find? k).map Node.untyped := by
  rw [List.findSome?_cons, layersUntyped_entry, ownUntyped_entry, find?_entry, List.lookup_cons]
  by_cases same : key = k
  · simp [same]
  · have apart : (k == key) = false := beq_eq_false_iff_ne.2 (Ne.symm same)
    rw [apart, if_neg same, ← ih, List.findSome?_cons]

theorem findSome?_untyped : (config.ownUntyped :: config.layersUntyped).findSome? (List.lookup k) =
    (config.find? k).map Node.untyped := by
  induction config with
  | root | bare => rfl
  | «over» layer ih => exact ih
  | scalar key value rest ih => exact findSome?_entry (.scalar value) ih
  | mapping key inner rest _ ih => exact findSome?_entry (.mapping inner) ih

/-- The mapping that is read, if one is. -/
def Reading.mapping? : Reading → Option FlowConfig
  | .mapping config => some config
  | _ => none

theorem mapping?_untyped :
    config.untyped.mapping? key = (config.read key).mapping?.map untyped := by
  unfold untyped mapping? read
  simp only [findSome?_untyped]
  cases config.find? key with
  | some node => cases node <;> rfl
  | none =>
      rw [← reachesRoot_lowest, ← layersUntyped_lowest, ← layer_lowest]
      simp only [Option.map_none]
      by_cases asked : config.lowest.reachesRoot = true ∧ key = layerKey
      · rw [if_pos asked, if_pos asked.1, if_pos asked.2]
        rcases config.lowest_cases with low | low | ⟨layer, low⟩ <;> rw [low]
        · rfl
        · rw [low] at asked
          cases asked.1
        · rfl
      · -- what the root has beside the reserved key is no mapping
        rw [if_neg asked]
        split
        · rename_i rooted
          rw [if_neg fun reserved => asked ⟨rooted, reserved⟩]
          split <;> rfl
        · rfl

/-! ## Writing -/

theorem lowest_setLayer : (config.setLayer node).lowest = config.lowest.setLayer node := by
  induction config using entryInduction with
  | root | bare | layered =>
      cases node with
      | mapping => rfl
      | scalar value => cases value <;> rfl
  | entry key other rest _ ih => rw [setLayer_entry, lowest_entry, lowest_entry, ih]

theorem untyped_setLayer : (config.setLayer node).untyped =
    Untyped.onLayer config.ownUntyped config.layersUntyped config.reachesRoot node.untyped := by
  have own : (config.setLayer node).ownUntyped = config.ownUntyped := by
    rw [ownUntyped_eq, entries_setLayer, ownUntyped_eq]
  rw [untyped, own, ← layersUntyped_lowest, ← reachesRoot_lowest, lowest_setLayer,
    ← config.layersUntyped_lowest, ← config.reachesRoot_lowest]
  rcases config.lowest_cases with low | low | ⟨layer, low⟩ <;> rw [low] <;>
    cases node with
    | mapping => rfl
    | scalar value => cases value <;> rfl

theorem untyped_put : (config.put key node).untyped = config.untyped.put key node.untyped := by
  have layered : config.ToLayer key ↔ config.reachesRoot ∧ key = layerKey ∧
      (config.ownUntyped :: config.layersUntyped).findSome? (List.lookup key) = none := by
    rw [findSome?_untyped, Option.map_eq_none_iff, ToLayer, and_left_comm]
  rw [untyped, untyped, Untyped.put.eq_def]
  by_cases toLayer : config.ToLayer key
  · rw [← untyped, put_of_toLayer toLayer, untyped_setLayer]
    exact (if_pos (layered.1 toLayer)).symm
  · have low : (config.put key node).lowest = config.lowest := lowest_put_of_entered toLayer
    refine Eq.trans ?_ (if_neg fun asked => toLayer (layered.2 asked)).symm
    rw [← layersUntyped_lowest, ← reachesRoot_lowest, low, layersUntyped_lowest, reachesRoot_lowest,
      ownUntyped_eq, entries_put toLayer, Members.mapValues_put, ← ownUntyped_eq]

/-! ## Copies and merges -/

theorem untyped_cloneInto :
    (cloneInto copy config).untyped = Untyped.cloneMembers copy.untyped config.ownUntyped := by
  induction config using entryInduction generalizing copy with
  | root | bare | layered => rfl
  | entry key node rest below ih =>
      have same : node.clone.untyped = node.untyped.clone := by
        cases node with
        | scalar value => rfl
        | mapping inner => exact below inner rfl
      rw [cloneInto_entry, ih, untyped_put, ownUntyped_entry, same]
      rfl

/-- A copy of a configuration is a copy of the value. -/
theorem untyped_clone : config.clone.untyped = config.untyped.clone := untyped_cloneInto

theorem mapping?_of_read (reads : config.read key = .mapping inner) :
    config.untyped.mapping? key = some inner.untyped := by
  rw [mapping?_untyped, reads]
  rfl

theorem mapping?_of_other (other : ∀ inner, config.read key ≠ .mapping inner) :
    config.untyped.mapping? key = none := by
  rw [mapping?_untyped]
  cases reads : config.read key with
  | mapping inner => exact absurd reads (other inner)
  | _ => rfl

theorem untyped_mergeInto : (mergeInto merged path override).map untyped =
    Untyped.mergeMembers merged.untyped path override.ownUntyped := by
  fun_induction mergeInto merged path override with
  | case1 | case2 | case3 => rfl
  -- a scalar, over a mapping or over anything else
  | case4 merged path key value rest current reads =>
      rw [ownUntyped, Untyped.mergeMembers_refused (mapping?_of_read reads) rfl]
      rfl
  | case5 merged path key value rest other ih =>
      rw [ownUntyped, Untyped.mergeMembers_over (mapping?_of_other other), ih, untyped_put]
      rfl
  -- a mapping over a mapping, where the merge below is done or refused
  | case6 merged path key inner rest current reads below done inside ih =>
      have inside : Untyped.mergeInto current.untyped.clone (keyPath path key) inner.untyped =
          .ok below.untyped := by
        rw [done, untyped_clone] at inside
        exact inside.symm
      rw [ownUntyped, ← untyped, Untyped.mergeMembers_below (mapping?_of_read reads) rfl, inside, ih,
        untyped_put]
      rfl
  | case7 merged path key inner rest current reads conflict done inside =>
      have inside : Untyped.mergeInto current.untyped.clone (keyPath path key) inner.untyped =
          .error conflict := by
        rw [done, untyped_clone] at inside
        exact inside.symm
      rw [ownUntyped, ← untyped, Untyped.mergeMembers_below (mapping?_of_read reads) rfl, inside]
      rfl
  -- a mapping over anything else
  | case8 merged path key inner rest other ih =>
      rw [ownUntyped, ← untyped, Untyped.mergeMembers_over (mapping?_of_other other), ih,
        untyped_put, ← untyped_clone]
      rfl

/-- A merge of configurations is a merge of the values. -/
theorem untyped_mergeAt : (mergeAt path copy override).map untyped =
    Untyped.mergeAt path copy.untyped override.untyped := by
  rw [mergeAt, untyped_mergeInto, untyped_clone]
  rfl

/-! ## JSON values -/

mutual

theorem isSome_nodeOfJson? (value : Json) :
    (nodeOfJson? value).isSome = (Untyped.ofJson value).isValue := by
  cases value with
  | null | bool | number | string | array => rfl
  | object members =>
      rw [nodeOfJson?, Option.isSome_map]
      exact isSome_ofMembers? members
termination_by structural value

theorem isSome_ofMembers? (members : List (String × Json)) :
    (ofMembers? members).isSome = Untyped.areValues (Untyped.ofMembers members) := by
  cases members with
  | nil => rfl
  | cons member members =>
      obtain ⟨key, value⟩ := member
      rw [Untyped.ofMembers, Untyped.areValues, ← isSome_nodeOfJson? value,
        ← isSome_ofMembers? members, ofMembers?]
      cases nodeOfJson? value with
      | none => rfl
      | some node => cases ofMembers? members <;> rfl
termination_by structural members

end

mutual

/-- A node that is loaded is the value that its JSON value is loaded as. -/
theorem untyped_of_nodeOfJson? (value : Json) {node : Node} (made : nodeOfJson? value = some node) :
    node.untyped = Untyped.ofJson value := by
  cases value with
  | null | bool | number | string =>
      cases made
      rfl
  | array items => cases made
  | object members =>
      rw [nodeOfJson?, Option.map_eq_some_iff] at made
      obtain ⟨inner, made, rfl⟩ := made
      exact untyped_of_ofMembers? members made
termination_by structural value

theorem untyped_of_ofMembers? (members : List (String × Json)) {config : FlowConfig}
    (made : ofMembers? members = some config) :
    config.untyped = .object (Untyped.ofMembers members) [] true := by
  cases members with
  | nil =>
      cases made
      rfl
  | cons member members =>
      obtain ⟨key, value⟩ := member
      obtain ⟨node, rest, first, later, rfl⟩ := ofMembers?_cons made
      have below : rest.untyped = _ := untyped_of_ofMembers? members later
      rw [untyped, Untyped.object.injEq] at below
      obtain ⟨own, layers, rooted⟩ := below
      rw [untyped, ownUntyped_entry, layersUntyped_entry, reachesRoot_entry, own, layers, rooted,
        untyped_of_nodeOfJson? value first]
      rfl
termination_by structural members

end

/-- The check of a JSON value is the check of the value that it is loaded as. -/
theorem isSome_ofJson? (value : Json) :
    (ofJson? value).isSome = (Untyped.ofJson value).isConfig := by
  cases value with
  | object members => exact isSome_ofMembers? members
  | _ => rfl

/-- A configuration that is loaded is the value that its JSON value is loaded as. -/
theorem untyped_of_ofJson? {value : Json} (made : ofJson? value = some config) :
    config.untyped = Untyped.ofJson value := by
  cases value with
  | object members => exact untyped_of_ofMembers? members made
  | _ => cases made

end FlowConfig

end ManualTraffic
