/-
# ManualTraffic.Proofs.FlowConfig.Shown -- what a configuration shows after a write

A write of a configuration is the write of the same member in the JSON object that shows it, or,
on the reserved key, it goes to the layer and does not show (`toMembers_put`).  A copy and a
merge are made by such writes alone.  So whatever the given configurations are, in a copy and in
what a merge comes to each key shows once, and in key order, at any depth (`keyed_clone`,
`keyed_merge`).
-/
import ManualTraffic.FlowConfig.Merge
import ManualTraffic.Proofs.FlowConfig.OwnEntries
import ManualTraffic.Proofs.FlowConfig.Parsed

namespace ManualTraffic

set_option autoImplicit false

namespace FlowConfig

variable {config copy merged override : FlowConfig} {key k place : String} {node : Node}

/-! ## Writes -/

theorem entries_entry : (entry key node config).entries = (key, node) :: config.entries := by
  cases node <;> rfl

theorem entries_insert :
    (config.insert key node).entries = Members.insert key node config.entries := by
  induction config using entryInduction with
  | root | bare | layered => exact entries_entry
  | entry k other rest _ ih =>
      rw [insert_entry, entries_entry, Members.insert]
      split
      · rw [entries_entry, entries_entry]
      · rw [entries_entry, ih]

theorem entries_replace :
    (config.replace key node).entries = Members.replace key node config.entries := by
  induction config using entryInduction with
  | root | bare | layered => rfl
  | entry k other rest _ ih =>
      rw [replace_entry, entries_entry, Members.replace]
      split
      · rename_i same
        rw [entries_entry, same]
      · rw [entries_entry, ih]

theorem entries_setLayer : (config.setLayer node).entries = config.entries := by
  induction config using entryInduction with
  | root | bare | layered =>
      cases node with
      | mapping => rfl
      | scalar value => cases value <;> rfl
  | entry k other rest _ ih => rw [setLayer_entry, entries_entry, entries_entry, ih]

theorem any_entries :
    (config.entries.any fun member => member.1 = k) = (config.own? k).isSome := by
  induction config using entryInduction with
  | root | bare | layered => rfl
  | entry key node rest _ ih =>
      rw [entries_entry, List.any_cons, ih, own?_entry]
      by_cases same : key = k <;> simp [same]

/-- A write of a key goes to the layer. -/
def ToLayer (config : FlowConfig) (key : String) : Prop :=
  key = layerKey ∧ config.reachesRoot ∧ config.find? key = none

theorem own?_of_find? (absent : config.find? k = none) : config.own? k = none := by
  induction config using entryInduction with
  | root | bare | layered => rfl
  | entry key node rest _ ih =>
      rw [find?_entry] at absent
      rw [own?_entry]
      split
      · rename_i same
        rw [if_pos same] at absent
        cases absent
      · rename_i apart
        rw [if_neg apart] at absent
        exact ih absent

theorem put_of_toLayer (toLayer : config.ToLayer key) :
    config.put key node = config.setLayer node := by
  have absent : config.own? key = none := own?_of_find? toLayer.2.2
  rw [put, absent, if_neg (by simp)]
  exact if_pos toLayer

/-- Any other write is one of the entries. -/
theorem entries_put (entered : ¬config.ToLayer key) :
    (config.put key node).entries = Members.put key node config.entries := by
  have entered : ¬(key = layerKey ∧ config.reachesRoot ∧ config.find? key = none) := entered
  unfold put Members.put
  rw [any_entries, if_neg entered]
  split
  · exact entries_replace
  · exact entries_insert

/-- And it leaves what the entries lie on as it is. -/
theorem lowest_put_of_entered (entered : ¬config.ToLayer key) :
    (config.put key node).lowest = config.lowest := by
  have entered : ¬(key = layerKey ∧ config.reachesRoot ∧ config.find? key = none) := entered
  unfold put
  rw [if_neg entered]
  split
  · exact lowest_replace
  · exact lowest_insert

theorem toMembers_eq : config.toMembers = Members.mapValues Node.toJson config.entries := by
  induction config using entryInduction with
  | root | bare | layered => rfl
  | entry key node rest _ ih => rw [toMembers_entry, entries_entry, Members.mapValues_cons, ih]

/-- A write is one of the member that shows it, or it does not show. -/
theorem toMembers_put (config : FlowConfig) (key : String) (node : Node) :
    (config.put key node).toMembers = Members.put key node.toJson config.toMembers ∨
      (config.put key node).toMembers = config.toMembers := by
  simp only [toMembers_eq]
  by_cases toLayer : config.ToLayer key
  · rw [put_of_toLayer toLayer, entries_setLayer]
    exact .inr rfl
  · rw [entries_put toLayer, Members.mapValues_put]
    exact .inl rfl

/-! ## Each key once, in key order -/

theorem keyed_toJson_iff :
    config.toJson.Keyed ↔ Members.Keyed config.toMembers ∧
      ∀ member ∈ config.toMembers, member.2.Keyed := by
  constructor
  · rintro ⟨⟩
    exact ⟨‹_›, ‹_›⟩
  · rintro ⟨keyed, each⟩
    exact .object keyed each

theorem keyed_root : root.toJson.Keyed := .object Members.keyed_nil (List.forall_mem_nil _)

theorem keyed_scalar (value : Scalar) : value.toJson.Keyed := by
  cases value with
  | null => exact .null
  | bool value => exact .bool value
  | number value => exact .number value
  | string value => exact .string value

theorem keyed_put (written : node.toJson.Keyed) (keyed : config.toJson.Keyed) :
    (config.put key node).toJson.Keyed := by
  obtain ⟨once, each⟩ := keyed_toJson_iff.1 keyed
  rw [keyed_toJson_iff]
  rcases config.toMembers_put key node with same | same
  · rw [same]
    exact ⟨once.put, Members.forall_put written each⟩
  · rw [same]
    exact ⟨once, each⟩

theorem keyed_cloneInto (keyed : copy.toJson.Keyed) : (cloneInto copy config).toJson.Keyed := by
  induction config using entryInduction generalizing copy with
  | root | bare | layered => exact keyed
  | entry key node rest below ih =>
      rw [cloneInto_entry]
      refine ih (keyed_put ?_ keyed)
      cases node with
      | scalar value => exact keyed_scalar value
      | mapping inner => exact below inner rfl keyed_root

/-- A copy shows each key once, and in key order, whatever it is a copy of. -/
theorem keyed_clone : config.clone.toJson.Keyed := keyed_cloneInto keyed_root

theorem keyed_mergeInto (keyed : merged.toJson.Keyed)
    (done : mergeInto merged place override = .ok config) : config.toJson.Keyed := by
  fun_induction mergeInto merged place override generalizing config with
  | case1 | case2 | case3 =>
      cases done
      exact keyed
  | case4 | case7 => cases done
  | case5 merged place key value rest _ ih => exact ih (keyed_put (keyed_scalar value) keyed) done
  | case6 merged place key inner rest current _ result below inside ih =>
      -- what was merged below is what a merge into a copy came to
      have written : (Node.mapping result).toJson.Keyed := inside keyed_clone below
      exact ih (keyed_put written keyed) done
  | case8 merged place key inner rest _ ih =>
      have written : (Node.mapping inner.clone).toJson.Keyed := keyed_clone
      exact ih (keyed_put written keyed) done

/-- **What a merge comes to shows each key once, and in key order**, at any depth, whatever is
merged. -/
theorem keyed_merge {defaults : FlowConfig} (done : defaults.merge override = .ok merged) :
    merged.toJson.Keyed :=
  keyed_mergeInto keyed_clone done

end FlowConfig

end ManualTraffic
