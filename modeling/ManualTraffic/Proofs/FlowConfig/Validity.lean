/-
# ManualTraffic.Proofs.FlowConfig.Validity -- what is accepted, and what stays so

A JSON value is accepted as a configuration exactly when it is an object and no array occurs in it
(`ofJson?_isSome_iff`).  Said of values of any kind, a copy of whatever is a mapping is accepted,
since it is made of fresh mappings alone, and a merge writes only such copies and such merges over
one (`isConfig_mergeMembers`).  It does not matter there what a key is read as: on the reserved
key a merge goes into a layer or into the common root, and the copy of that is accepted as well.
So all that comes out of accepted values by copies and merges is accepted (`Reached.isConfig`),
and each of them is a configuration of the program (`Reached.eq_untyped`).
-/
import ManualTraffic.Proofs.FlowConfig.Untyped

namespace ManualTraffic

set_option autoImplicit false

/-! ## Values inside JSON values -/

/-- A value occurs in another one: it is that value, or it occurs in an item or in a member. -/
inductive Json.Within (value : Json) : Json → Prop where
  | self : Within value value
  | item {items : List Json} {item : Json} (listed : item ∈ items) (within : Within value item) :
      Within value (.array items)
  | member {members : List (String × Json)} {member : String × Json} (listed : member ∈ members)
      (within : Within value member.2) : Within value (.object members)

/-- No array occurs in a value. -/
def Json.ArrayFree (value : Json) : Prop := ∀ items, ¬Json.Within (.array items) value

theorem Json.arrayFree_object_iff {members : List (String × Json)} :
    Json.ArrayFree (.object members) ↔ ∀ member ∈ members, Json.ArrayFree member.2 := by
  constructor
  · intro free member listed items within
    exact free items (.member listed within)
  · intro each items within
    cases within with
    | member listed within => exact each _ listed items within

namespace Untyped

variable {value target copy merged result defaults override current : Untyped}
  {members : List (String × Untyped)} {key path : String}

/-! ## Accepted JSON values -/

theorem areValues_iff : areValues members = true ↔ ∀ member ∈ members, member.2.isValue = true := by
  induction members with
  | nil => exact ⟨fun _ => List.forall_mem_nil _, fun _ => rfl⟩
  | cons first rest ih =>
      obtain ⟨key, value⟩ := first
      rw [areValues, Bool.and_eq_true, List.forall_mem_cons, ih]

mutual

theorem isValue_ofJson_iff (value : Json) : (ofJson value).isValue = true ↔ value.ArrayFree := by
  cases value with
  | null | bool | number | string => exact ⟨fun _ _ within => (nomatch within), fun _ => rfl⟩
  | array items => exact ⟨nofun, fun free => absurd .self (free items)⟩
  | object members => exact (areValues_ofMembers_iff members).trans Json.arrayFree_object_iff.symm
termination_by structural value

theorem areValues_ofMembers_iff (members : List (String × Json)) :
    areValues (ofMembers members) = true ↔ ∀ member ∈ members, member.2.ArrayFree := by
  cases members with
  | nil => exact ⟨fun _ => List.forall_mem_nil _, fun _ => rfl⟩
  | cons member members =>
      obtain ⟨key, value⟩ := member
      rw [ofMembers, areValues, Bool.and_eq_true, List.forall_mem_cons, isValue_ofJson_iff value,
        areValues_ofMembers_iff members]
termination_by structural members

end

theorem isConfig_ofJson_iff {value : Json} :
    (ofJson value).isConfig = true ↔ (∃ members, value = .object members) ∧ value.ArrayFree := by
  cases value with
  | object members =>
      exact (isValue_ofJson_iff (.object members)).trans (and_iff_right ⟨members, rfl⟩).symm
  | _ => exact ⟨nofun, fun ⟨⟨_, same⟩, _⟩ => nomatch same⟩

/-! ## What one operation keeps -/

theorem isValue_of_isConfig (config : value.isConfig = true) : value.isValue = true := by
  cases value with
  | object own layers rooted => exact config
  | _ => cases config

theorem isMapping_of_isConfig (config : value.isConfig = true) : value.isMapping = true := by
  cases value with
  | object own layers rooted => rfl
  | _ => cases config

/-- A write of a value that may stand in a configuration: as a layer it does not count. -/
theorem isConfig_put (config : target.isConfig = true) (allowed : value.isValue = true) :
    (target.put key value).isConfig = true := by
  cases target with
  | scalar | array => cases config
  | object own layers rooted =>
      have each : ∀ member ∈ own, member.2.isValue = true := areValues_iff.1 config
      dsimp only [put]
      split
      · cases value with
        | scalar value => cases value <;> exact config
        | array items => cases allowed
        | object upper lower grounded => exact config
      · have kept : ∀ member ∈ Members.put key value own, member.2.isValue = true :=
          Members.forall_put (p := fun value : Untyped => value.isValue = true) allowed each
        exact areValues_iff.2 kept

mutual

theorem isValue_clone (value : Untyped) : value.clone.isValue = true := by
  cases value with
  | scalar => rfl
  | array own | object own => exact isValue_of_isConfig (isConfig_cloneMembers rfl own)
termination_by structural value

theorem isConfig_cloneMembers {copy : Untyped} (config : copy.isConfig = true)
    (members : List (String × Untyped)) : (cloneMembers copy members).isConfig = true := by
  cases members with
  | nil => exact config
  | cons member members =>
      obtain ⟨key, value⟩ := member
      exact isConfig_cloneMembers (isConfig_put config (isValue_clone value)) members
termination_by structural members

end

/-- A copy of a mapping is a configuration, whatever the mapping holds. -/
theorem isConfig_clone (mapping : value.isMapping = true) : value.clone.isConfig = true := by
  cases value with
  | scalar => cases mapping
  | array own | object own => exact isConfig_cloneMembers rfl own

theorem isMapping_of_mapping? (reads : merged.mapping? key = some current) :
    current.isMapping = true := by
  cases merged with
  | scalar | array => cases reads
  | object own layers rooted =>
      dsimp only [mapping?] at reads
      split at reads
      · obtain ⟨mapping, same⟩ := Option.ite_none_right_eq_some.1 reads
        exact Option.some.inj same ▸ mapping
      · obtain ⟨-, same⟩ := Option.ite_none_right_eq_some.1 reads
        cases layers <;> cases same <;> rfl

mutual

theorem isConfig_mergeInto {merged result : Untyped} {path : String}
    (config : merged.isConfig = true) (override : Untyped)
    (done : mergeInto merged path override = .ok result) : result.isConfig = true := by
  cases override with
  | scalar =>
      cases done
      exact config
  | array own | object own => exact isConfig_mergeMembers config own done
termination_by structural override

theorem isConfig_mergeMembers {merged result : Untyped} {path : String}
    (config : merged.isConfig = true) (members : List (String × Untyped))
    (done : mergeMembers merged path members = .ok result) : result.isConfig = true := by
  cases members with
  | nil =>
      cases done
      exact config
  | cons member members =>
      obtain ⟨key, value⟩ := member
      cases reads : merged.mapping? key with
      | none =>
          rw [mergeMembers_over reads] at done
          exact isConfig_mergeMembers (isConfig_put config (isValue_clone value)) members done
      | some current =>
          cases mapping : value.isMapping with
          | false =>
              rw [mergeMembers_refused reads mapping] at done
              cases done
          | true =>
              -- the merge goes into a copy, so it does not matter what was read
              have copied : current.clone.isConfig = true :=
                isConfig_clone (isMapping_of_mapping? reads)
              rw [mergeMembers_below reads mapping] at done
              cases inside : mergeInto current.clone (FlowConfig.keyPath path key) value with
              | error conflict =>
                  rw [inside] at done
                  cases done
              | ok below =>
                  have allowed : below.isValue = true :=
                    isValue_of_isConfig (isConfig_mergeInto copied value inside)
                  rw [inside] at done
                  exact isConfig_mergeMembers (isConfig_put config allowed) members done
termination_by structural members

end

/-- What a merge into a mapping comes to is a configuration. -/
theorem isConfig_mergeAt (mapping : defaults.isMapping = true)
    (done : mergeAt path defaults override = .ok merged) : merged.isConfig = true :=
  isConfig_mergeInto (isConfig_clone mapping) override done

/-! ## Any number of operations -/

/-- What comes out of accepted JSON values by loading, copies and merges. -/
inductive Reached : Untyped → Prop where
  | loaded {value : Json} (accepted : (ofJson value).isConfig = true) : Reached (ofJson value)
  | copied {value : Untyped} (reached : Reached value) : Reached value.clone
  | merged {path : String} {defaults override merged : Untyped} (lower : Reached defaults)
      (upper : Reached override) (done : mergeAt path defaults override = .ok merged) :
      Reached merged

theorem Reached.isConfig (reached : Reached value) : value.isConfig = true := by
  induction reached with
  | loaded accepted => exact accepted
  | copied _ ih => exact isConfig_clone (isMapping_of_isConfig ih)
  | merged _ _ done below _ => exact isConfig_mergeAt (isMapping_of_isConfig below) done

/-- It is a configuration of the program, whose copies and merges are those of the value. -/
theorem Reached.eq_untyped (reached : Reached value) :
    ∃ config : FlowConfig, value = config.untyped := by
  induction reached with
  | @loaded value accepted =>
      rw [← FlowConfig.isSome_ofJson?, Option.isSome_iff_exists] at accepted
      obtain ⟨config, made⟩ := accepted
      exact ⟨config, (FlowConfig.untyped_of_ofJson? made).symm⟩
  | copied _ ih =>
      obtain ⟨config, rfl⟩ := ih
      exact ⟨config.clone, FlowConfig.untyped_clone.symm⟩
  | @merged path _ _ result _ _ done below above =>
      obtain ⟨defaults, rfl⟩ := below
      obtain ⟨override, rfl⟩ := above
      rw [← FlowConfig.untyped_mergeAt] at done
      cases made : FlowConfig.mergeAt path defaults override with
      | error conflict =>
          rw [made] at done
          cases done
      | ok merged =>
          rw [made] at done
          exact ⟨merged, (Except.ok.inj done).symm⟩

end Untyped

namespace FlowConfig

variable {config defaults override merged : FlowConfig} {path : String} {value : Json}

/-- **What the check accepts**: an object in which no array occurs, at any depth, under any key. -/
theorem ofJson?_isSome_iff :
    (ofJson? value).isSome = true ↔ (∃ members, value = .object members) ∧ value.ArrayFree := by
  rw [isSome_ofJson?, Untyped.isConfig_ofJson_iff]

/-! ## Reached configurations -/

/-- A configuration comes out of accepted JSON values by loading, copies and merges. -/
def Reached (config : FlowConfig) : Prop := config.untyped.Reached

theorem reached_of_ofJson? (made : ofJson? value = some config) : config.Reached := by
  have accepted : (Untyped.ofJson value).isConfig = true := by
    rw [← isSome_ofJson?, made]
    rfl
  rw [Reached, untyped_of_ofJson? made]
  exact .loaded accepted

theorem Reached.clone (reached : config.Reached) : config.clone.Reached := by
  rw [Reached, untyped_clone]
  exact .copied reached

theorem Reached.mergeAt (lower : defaults.Reached) (upper : override.Reached)
    (done : mergeAt path defaults override = .ok merged) : merged.Reached := by
  have same : Untyped.mergeAt path defaults.untyped override.untyped = .ok merged.untyped := by
    rw [← untyped_mergeAt, done]
    rfl
  exact .merged lower upper same

end FlowConfig

end ManualTraffic
