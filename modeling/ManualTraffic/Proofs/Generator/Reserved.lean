/-
# ManualTraffic.Proofs.Generator.Reserved -- the reserved key in the defaults

The defaults that a generator is given may have entries under the reserved key, at any
depth.  The copy that the generator keeps has none; where one stood, the copy lies on a
layer of its own, and what is read through that layer is there to be read.

A test reads a second copy, alone or with an override merged into it, and a copy sees own
entries only (`cloneInto_ownOnly`).  The own entries of the first copy are those of a copy of
the defaults without the reserved key (`ownOnly_clone`).  So a generator of the one and a
generator of the other do the same in every test (`tests_without_reserved`).
-/
import ManualTraffic.Proofs.Generator.Announcement
import ManualTraffic.Proofs.FlowConfig.OwnEntries
import ManualTraffic.Proofs.FlowConfig.Parsed

namespace ManualTraffic

set_option autoImplicit false

namespace FlowConfig

variable {config copy copy' rest given : FlowConfig} {key k : String} {node other : Node}

/-! ## Without the reserved key -/

/-- The entries under other keys than the reserved one, at every level. -/
def strip : FlowConfig → FlowConfig
  | .root => .root
  | .bare => .bare
  | .over layer => .over layer
  | .scalar key value rest => if key = layerKey then rest.strip else .scalar key value rest.strip
  | .mapping key inner rest =>
      if key = layerKey then rest.strip else .mapping key inner.strip rest.strip

/-- A node without the reserved key. -/
def Node.strip : Node → Node
  | .scalar value => .scalar value
  | .mapping config => .mapping config.strip

theorem strip_entry_layerKey : (entry layerKey node rest).strip = rest.strip := by
  cases node <;> exact if_pos rfl

theorem strip_entry (free : key ≠ layerKey) :
    (entry key node rest).strip = entry key node.strip rest.strip := by
  cases node <;> exact if_neg free

/-- Nothing else is gone. -/
theorem own?_strip :
    config.strip.own? k = if k = layerKey then none else (config.own? k).map Node.strip := by
  induction config using entryInduction with
  | root | bare | layered => exact (ite_self none).symm
  | entry key node rest _ ih =>
      by_cases reserved : key = layerKey
      · subst reserved
        rw [strip_entry_layerKey, ih, own?_entry]
        by_cases hit : k = layerKey
        · rw [if_pos hit, if_pos hit]
        · rw [if_neg hit, if_neg hit, if_neg (Ne.symm hit)]
      · rw [strip_entry reserved, own?_entry, own?_entry, ih]
        by_cases hit : key = k
        · have free : k ≠ layerKey := hit ▸ reserved
          rw [if_pos hit, if_pos hit, if_neg free]
          rfl
        · rw [if_neg hit, if_neg hit]

theorem layerFree_strip : config.strip.LayerFree := by
  induction config using entryInduction with
  | root | bare | layered => trivial
  | entry key node rest below ih =>
      by_cases reserved : key = layerKey
      · subst reserved
        rw [strip_entry_layerKey]
        exact ih
      · rw [strip_entry reserved]
        refine layerFree_entry.2 ⟨reserved, ?_, ih⟩
        cases node with
        | scalar value => trivial
        | mapping inner => exact below inner rfl

/-! ## Own entries -/

/-- The reserved key moves a copy and leaves its own entries. -/
theorem ownOnly_put_layerKey (absent : config.own? layerKey = none)
    (onRoot : config.lowest = .root) : (config.put layerKey node).ownOnly = config.ownOnly := by
  have below : config.find? layerKey = none := (find?_of_lowest onRoot).trans absent
  unfold put
  rw [absent, if_neg (by simp), if_pos ⟨rfl, reachesRoot_of_lowest onRoot, below⟩]
  exact ownOnly_setLayer

theorem own?_put_layerKey (absent : config.own? layerKey = none)
    (onRoot : config.lowest = .root) : (config.put layerKey node).own? layerKey = none := by
  have below : config.find? layerKey = none := (find?_of_lowest onRoot).trans absent
  unfold put
  rw [absent, if_neg (by simp), if_pos ⟨rfl, reachesRoot_of_lowest onRoot, below⟩]
  exact own?_setLayer.trans absent

/-! ## Copies -/

/-- Into copies with the same own entries go the same own entries, with or without those
under the reserved key.  That key stands in a mapping once, and it finds the copy on the
common root. -/
theorem ownOnly_cloneInto_strip (distinct : config.Distinct) (same : copy.ownOnly = copy'.ownOnly)
    (absent : copy.own? layerKey = none)
    (movable : copy.lowest = .root ∨ config.own? layerKey = none) :
    (cloneInto copy config).ownOnly = (cloneInto copy' config.strip).ownOnly := by
  induction config using entryInduction generalizing copy copy' with
  | root | bare | layered => exact same
  | entry key node rest below ih =>
      obtain ⟨fresh, nodeDistinct, restDistinct⟩ := distinct_entry.1 distinct
      rw [cloneInto_entry]
      by_cases reserved : key = layerKey
      · subst reserved
        rw [own?_entry, if_pos rfl] at movable
        have onRoot := movable.resolve_right nofun
        rw [strip_entry_layerKey]
        exact ih restDistinct ((ownOnly_put_layerKey absent onRoot).trans same)
          (own?_put_layerKey absent onRoot) (.inr fresh)
      · have nodeSame : node.clone.ownOnly = node.strip.clone.ownOnly := by
          cases node with
          | scalar value => rfl
          | mapping inner =>
              exact congrArg Node.mapping (below inner rfl nodeDistinct rfl rfl (.inl rfl))
        rw [own?_entry, if_neg reserved] at movable
        rw [strip_entry reserved, cloneInto_entry]
        refine ih restDistinct ?_ ?_ ?_
        · rw [ownOnly_put reserved, ownOnly_put reserved, same, nodeSame]
        · rw [own?_put reserved, if_neg reserved, absent]
        · rwa [lowest_put reserved]

/-- The own entries of a copy are those of a copy without the reserved key. -/
theorem ownOnly_clone (distinct : given.Distinct) :
    given.clone.ownOnly = given.strip.clone.ownOnly :=
  ownOnly_cloneInto_strip distinct rfl rfl (.inl rfl)

/-- **The second copy has lost the reserved key.** -/
theorem clone_clone (distinct : given.Distinct) :
    given.clone.clone = given.strip.clone.clone := by
  calc given.clone.clone
      = given.clone.ownOnly.clone := cloneInto_ownOnly.symm
    _ = given.strip.clone.ownOnly.clone := by rw [ownOnly_clone distinct]
    _ = given.strip.clone.clone := cloneInto_ownOnly

end FlowConfig

namespace Generator

variable {generator stripped : Generator} {given : FlowConfig} {name : String}

/-! ## Tests -/

/-- Only a copy of its defaults takes part in what a generator does. -/
theorem effective_of_clone (same : generator.defaults.clone = stripped.defaults.clone)
    (override : Option FlowConfig) :
    generator.effective override = stripped.effective override := by
  cases override with
  | none => exact congrArg Except.ok same
  | some config => simp only [effective, FlowConfig.merge, FlowConfig.mergeAt, same]

variable {σ : Type} [Console σ]

theorem burst_of_clone (same : generator.defaults.clone = stripped.defaults.clone)
    (plan : BurstPlan) :
    (generator.burst plan : EStateM Fault (Desk σ) _) = stripped.burst plan :=
  burst_of_effective (effective_of_clone same plan.flow)

theorem measure_of_clone (same : generator.defaults.clone = stripped.defaults.clone)
    (kind stream : String) (override : Option FlowConfig) (duration : Binary64) :
    (generator.measure kind stream override duration : EStateM Fault (Desk σ) _) =
      stripped.measure kind stream override duration :=
  measure_of_effective (effective_of_clone same override)

/-- **Entries of the defaults under the reserved key do nothing in a test.**  A generator of
defaults that are read from a text, whatever stands under that key at whatever depth, and one
of the same defaults without it return the same, show the same, log the same and leave the
same answers, under every override. -/
theorem tests_without_reserved {text : List Char} {value : Json}
    (parsed : Json.parse? text = some value) (made : FlowConfig.ofJson? value = some given)
    (created : create name given = .ok generator) :
    ∃ stripped, create name given.strip = .ok stripped ∧
      ∀ {σ : Type} [Console σ] (desk : Desk σ),
        (∀ plan : BurstPlan, generator.burst plan desk = stripped.burst plan desk) ∧
          (∀ plan : ContinuousPlan,
            generator.continuous plan desk = stripped.continuous plan desk) ∧
          ∀ plan : ThroughputPlan,
            generator.throughput plan desk = stripped.throughput plan desk := by
  have known : available.contains (Text.lower (String.ofList (Text.trim name.toList))) = true := by
    by_contra unknown
    rw [create, if_neg unknown] at created
    cases created
  have same : generator.defaults.clone = given.strip.clone.clone := by
    rw [defaults_of_create created]
    exact FlowConfig.clone_clone (FlowConfig.distinct_of_parse parsed made)
  refine ⟨⟨given.strip.clone⟩, by rw [create, if_pos known], fun desk => ⟨?_, ?_, ?_⟩⟩
  · intro plan
    exact congrFun (burst_of_clone same plan) desk
  · intro plan
    exact congrFun (measure_of_clone same _ _ _ _) desk
  · intro plan
    exact congrFun (measure_of_clone same _ _ _ _) desk

/-- Defaults whose copy shows another `l3` through its layer, and has null and a number under
the reserved key further down. -/
theorem tests_without_reserved_at_depth :
    let text := "\x7b\"__proto__\":\x7b\"l3\":\x7b\"ttl\":9\x7d\x7d," ++
      "\"l2\":\x7b\"__proto__\":null,\"framesize\":64\x7d,\"l4\":\x7b\"__proto__\":7\x7d\x7d"
    let ttl : FlowConfig := .scalar "ttl" (.number (.ofNat false 9)) .root
    ∃ value given generator stripped,
      Json.parse? text.toList = some value ∧ FlowConfig.ofJson? value = some given ∧
        create "dummy" given = .ok generator ∧ create "dummy" given.strip = .ok stripped ∧
        generator.defaults.read "l3" = .mapping ttl ∧ stripped.defaults.read "l3" = .nothing ∧
        ∀ (desk : Desk ScriptedOperator) (options : BurstOptions),
          generator.burst options.plan desk = stripped.burst options.plan desk := by
  intro text ttl
  let given : FlowConfig :=
    .mapping FlowConfig.layerKey (.mapping "l3" ttl .root)
      (.mapping "l2" (.scalar FlowConfig.layerKey .null
          (.scalar "framesize" (.number (.ofNat false 64)) .root))
        (.mapping "l4" (.scalar FlowConfig.layerKey (.number (.ofNat false 7)) .root) .root))
  have reads : (Json.parse? text.toList).bind FlowConfig.ofJson? = some given := by decide +kernel
  obtain ⟨value, parsed, made⟩ := Option.bind_eq_some_iff.1 reads
  have created : create "dummy" given = .ok ⟨given.clone⟩ := by
    rw [create, if_pos (by decide +kernel)]
  obtain ⟨stripped, created', same⟩ := tests_without_reserved parsed made created
  have kept : stripped.defaults = given.strip.clone := defaults_of_create created'
  refine ⟨value, given, _, stripped, parsed, made, created, created', ?_, ?_, fun desk options => ?_⟩
  · show given.clone.read "l3" = .mapping ttl
    decide +kernel
  · rw [kept]
    decide +kernel
  · exact (same desk).1 options.plan

end Generator

end ManualTraffic
