/-
# ManualTraffic.Proofs.Generator.Containment -- overrides that change nothing

An override is *contained* in a configuration that has every node of it, a mapping where it
has a mapping and the same scalar where it has a scalar (`Contained`).  Laid over that
configuration it clashes nowhere, leaves every shape and adds no key, so all that comes out
is a copy (`merge_of_contained`).  And nothing else comes out as a copy: a shape that is laid
over another one and leaves it was there before (`Shape.over_eq_lower_iff`).

What an override was laid over contains it, so a second time it changes nothing, and a
generator with an override that its defaults contain is as good as one without
(`override_settles`).
-/
import ManualTraffic.Proofs.FlowConfig.Clash
import ManualTraffic.Proofs.FlowConfig.OwnEntries
import ManualTraffic.Proofs.Generator.Announcement

namespace ManualTraffic

set_option autoImplicit false

namespace FlowConfig

variable {config defaults override merged : FlowConfig} {path : List String}

/-! ## Containment -/

/-- Every node of an override stands in a configuration at the same path, a mapping as a
mapping and a scalar as the same scalar. -/
structure Contained (override config : FlowConfig) : Prop where
  mappings : ∀ path inner, override.nodeAt? path = some (.mapping inner) →
    ∃ there, config.nodeAt? path = some (.mapping there)
  scalars : ∀ path value, override.nodeAt? path = some (.scalar value) →
    config.nodeAt? path = some (.scalar value)

/-- Containment shows in the shapes. -/
theorem contained_iff_shapes :
    override.Contained config ↔
      ∀ path shape, override.shapeAt? path = some shape → config.shapeAt? path = some shape := by
  constructor
  · rintro ⟨mappings, scalars⟩ path shape found
    cases shape with
    | scalar value =>
        exact shapeAt?_eq_scalar_iff.2 (scalars path value (shapeAt?_eq_scalar_iff.1 found))
    | mapping =>
        obtain ⟨inner, here⟩ := (shapeAt?_eq_mapping_iff override).1 found
        exact (shapeAt?_eq_mapping_iff config).2 (mappings path inner here)
  · intro within
    refine ⟨fun path inner here => ?_, fun path value here => ?_⟩
    · exact (shapeAt?_eq_mapping_iff config).1
        (within path _ ((shapeAt?_eq_mapping_iff override).2 ⟨inner, here⟩))
    · exact shapeAt?_eq_scalar_iff.1 (within path _ (shapeAt?_eq_scalar_iff.2 here))

/-- A shape that is laid over another one, without a clash, leaves it exactly if it was there
before, or if there is none. -/
theorem Shape.over_eq_lower_iff {upper lower : Option Shape} :
    ¬Shape.Clash lower upper ∧ Shape.over upper lower = lower ↔
      ∀ shape, upper = some shape → lower = some shape := by
  rcases upper with _ | ⟨value⟩ | _ <;> rcases lower with _ | ⟨below⟩ | _ <;>
    simp [Shape.Clash, Shape.over, eq_comm]

/-- Laid over another one without a clash, a shape is there. -/
theorem Shape.over_of_some {upper lower : Option Shape} (apart : ¬Shape.Clash lower upper) :
    ∀ shape, upper = some shape → Shape.over upper lower = some shape := by
  rintro shape rfl
  cases shape with
  | mapping => rfl
  | scalar value =>
      rcases lower with _ | ⟨below⟩ | _
      · rfl
      · rfl
      · exact absurd ⟨rfl, value, rfl⟩ apart

theorem contained_self : config.Contained config :=
  contained_iff_shapes.2 fun _ _ found => found

/-- An override without entries is contained in every configuration. -/
theorem contained_of_keys (empty : override.keys = []) : override.Contained config := by
  refine contained_iff_shapes.2 fun path shape found => ?_
  cases path with
  | nil =>
      simp only [shapeAt?, nodeAt?_nil, Option.map_some, Node.shape] at found ⊢
      exact found
  | cons k path =>
      have absent : override.own? k = none := not_mem_keys.1 (empty ▸ List.not_mem_nil)
      simp [shapeAt?, nodeAt?_cons, absent] at found

/-! ## Merging what is contained -/

/-- Where the override has a mapping, it has no key that the configuration lacks. -/
theorem Contained.keys (contained : override.Contained config) {upper : List String}
    (here : override.keysAt? path = some upper) :
    ∃ lower, config.keysAt? path = some lower ∧ ∀ key ∈ upper, key ∈ lower := by
  obtain ⟨inner, found, -⟩ := keysAt?_eq_some_iff.1 here
  obtain ⟨there, beside⟩ := contained.mappings path inner found
  have keys : config.keysAt? path = some there.keys :=
    keysAt?_eq_some_iff.2 ⟨there, beside, rfl⟩
  refine ⟨there.keys, keys, fun key inside => ?_⟩
  have further := (mem_keysAt? here).1 inside
  rw [← isSome_shapeAt?, Option.isSome_iff_exists] at further
  obtain ⟨shape, further⟩ := further
  rw [mem_keysAt? keys, ← isSome_shapeAt?, contained_iff_shapes.1 contained _ _ further]
  rfl

section

variable (plain : defaults.Plain) (overridePlain : override.Plain)

include plain overridePlain

/-- **What is contained is merged without a trace.** -/
theorem merge_of_contained (contained : override.Contained defaults) :
    defaults.merge override = .ok defaults.clone := by
  have still (path : List String) :=
    Shape.over_eq_lower_iff.2 (contained_iff_shapes.1 contained path)
  obtain ⟨merged, done⟩ : ∃ merged, defaults.merge override = .ok merged :=
    (exists_merge_iff plain overridePlain).2 fun path => (still path).1
  have same : merged = defaults.clone := by
    refine (tidy_mergeAt plain overridePlain done).eq_of_paths plain.tidy_clone
      (fun path => ?_) fun path => ?_
    · rw [shapeAt?_mergeAt plain overridePlain done, (still path).2, shapeAt?_clone plain]
    · rw [keysAt?_mergeAt plain overridePlain done, keysAt?_clone plain]
      cases here : override.keysAt? path with
      | none => rfl
      | some upper =>
          obtain ⟨lower, there, old⟩ := contained.keys here
          rw [there]
          refine congrArg some (KeyOrder.addAll_of_subset fun key inside => ?_)
          exact KeyOrder.mem_addAll.2 (.inr (old key inside))
  rw [done, same]

theorem contained_of_merge (done : defaults.merge override = .ok merged) :
    override.Contained merged := by
  refine contained_iff_shapes.2 fun path shape found => ?_
  rw [shapeAt?_mergeAt plain overridePlain done]
  exact Shape.over_of_some (apart_of_merge plain overridePlain done path) shape found

/-- A second time, an override changes nothing. -/
theorem merge_again (done : defaults.merge override = .ok merged) :
    merged.merge override = .ok merged := by
  have tidy := tidy_mergeAt plain overridePlain done
  have contained := contained_of_merge plain overridePlain done
  rw [merge_of_contained tidy.toPlain overridePlain contained, tidy.clone_eq]

/-- What is merged without a trace was contained. -/
theorem contained_of_unchanged (done : defaults.merge override = .ok merged)
    (unchanged : merged.toJson = defaults.toJson) : override.Contained defaults := by
  refine contained_iff_shapes.2 fun path => Shape.over_eq_lower_iff.1 ⟨?_, ?_⟩
  · exact apart_of_merge plain overridePlain done path
  · rw [← shapeAt?_mergeAt plain overridePlain done]
    exact shapeAt?_eq_of_toJson unchanged

end

end FlowConfig

namespace Generator

variable {defaults override : FlowConfig} {generator : Generator} {name : String}

/-! ## Generators -/

/-- A generator comes to its defaults without an override, and with one that they contain. -/
theorem effective_of_contained (plain : defaults.Plain) (overridePlain : override.Plain)
    (created : create name defaults = .ok generator) (contained : override.Contained defaults) :
    generator.effective none = .ok defaults.clone ∧
      generator.effective (some override) = .ok defaults.clone := by
  have own : generator.defaults = defaults.clone := defaults_of_create created
  have merged : generator.defaults.merge override = .ok defaults.clone := by
    rw [own]
    exact (FlowConfig.mergeAt_clone plain).trans
      (FlowConfig.merge_of_contained plain overridePlain contained)
  constructor
  · rw [effective, own, plain.tidy_clone.clone_eq]
  · simp only [effective, merged]

/-- **Overrides that change nothing.**  What comes of a merge contains the override, and merging
it once more gives the very same.  A merge leaves the defaults as they are, the order of their
keys with them, exactly if they contain the override; so do an override without entries and the
defaults themselves.  A generator of the defaults then comes to them with that override as
without one, and each test is the same computation. -/
theorem override_settles (plain : defaults.Plain) (ordered : defaults.KeyOrdered)
    (overridePlain : override.Plain) :
    (∀ merged, defaults.merge override = .ok merged →
      override.Contained merged ∧ merged.merge override = .ok merged) ∧
    ((∃ merged, defaults.merge override = .ok merged ∧ merged.toJson = defaults.toJson) ↔
      override.Contained defaults) ∧
    (override.keys = [] ∨ override = defaults → override.Contained defaults) ∧
    ∀ name generator, create name defaults = .ok generator → override.Contained defaults →
      (∃ flow, generator.effective none = .ok flow ∧
        generator.effective (some override) = .ok flow ∧ flow.toJson = defaults.toJson) ∧
      ∀ {σ : Type} [Console σ] (desk : Desk σ),
        (∀ plan : BurstPlan, generator.burst { plan with flow := some override } desk =
          generator.burst { plan with flow := none } desk) ∧
        (∀ plan : ContinuousPlan, generator.continuous { plan with flow := some override } desk =
          generator.continuous { plan with flow := none } desk) ∧
        ∀ plan : ThroughputPlan, generator.throughput { plan with flow := some override } desk =
          generator.throughput { plan with flow := none } desk := by
  have copied : defaults.clone.toJson = defaults.toJson := FlowConfig.toJson_clone plain ordered
  refine ⟨fun merged done => ?again, ⟨?contained, ?unchanged⟩, ?trivial_, ?generators⟩
  case again =>
    exact ⟨FlowConfig.contained_of_merge plain overridePlain done,
      FlowConfig.merge_again plain overridePlain done⟩
  case contained =>
    rintro ⟨merged, done, unchanged⟩
    exact FlowConfig.contained_of_unchanged plain overridePlain done unchanged
  case unchanged =>
    intro contained
    exact ⟨_, FlowConfig.merge_of_contained plain overridePlain contained, copied⟩
  case trivial_ =>
    rintro (empty | rfl)
    · exact FlowConfig.contained_of_keys empty
    · exact FlowConfig.contained_self
  case generators =>
    intro name generator created contained
    obtain ⟨alone, laid⟩ := effective_of_contained plain overridePlain created contained
    have same : generator.effective (some override) = generator.effective none :=
      laid.trans alone.symm
    refine ⟨⟨_, alone, laid, copied⟩, fun desk => ⟨fun plan => ?_, fun plan => ?_, fun plan => ?_⟩⟩
    · exact congrFun (burst_of_effective same) desk
    · exact congrFun (measure_of_effective same) desk
    · exact congrFun (measure_of_effective same) desk

/-- An override that puts a mapping where the defaults have null changes them, and does so once;
one that repeats the null and an empty mapping of theirs does not show in a burst. -/
theorem override_settles_vlan :
    let defaults : FlowConfig := .scalar "vlan" .null
      (.mapping "l2" (.scalar "framesize" (.number (.ofNat false 64)) .root)
        (.mapping "l3" .root .root))
    let changing : FlowConfig := .mapping "vlan" (.scalar "id" .null .root)
      (.mapping "l2" .root .root)
    let contained : FlowConfig := .mapping "l3" .root (.scalar "vlan" .null .root)
    ∃ merged generator, defaults.merge changing = .ok merged ∧ merged.toJson ≠ defaults.toJson ∧
      merged.merge changing = .ok merged ∧ ¬changing.Contained defaults ∧
      create "dummy" defaults = .ok generator ∧
      ∀ (desk : Desk ScriptedOperator) (plan : BurstPlan),
        generator.burst { plan with flow := some contained } desk =
          generator.burst { plan with flow := none } desk := by
  intro defaults changing contained
  let merged : FlowConfig := .mapping "vlan" (.scalar "id" .null .root)
    (.mapping "l2" (.scalar "framesize" (.number (.ofNat false 64)) .root)
      (.mapping "l3" .root .root))
  have plain : defaults.Plain := by decide
  have copied : defaults.clone = defaults := by rfl
  have ordered : defaults.KeyOrdered := copied ▸ plain.tidy_clone.inOrder.keyOrdered
  have done : defaults.merge changing = .ok merged := by rfl
  have changed : merged.toJson ≠ defaults.toJson := fun same => nomatch Json.object.inj same
  have created : create "dummy" defaults = .ok ⟨defaults.clone⟩ := by
    rw [create, if_pos (by decide +kernel)]
  obtain ⟨again, unchanged, -, -⟩ :=
    override_settles plain ordered (by decide : changing.Plain)
  have apart : ¬changing.Contained defaults := by
    intro within
    obtain ⟨same, done', kept⟩ := unchanged.2 within
    rw [done] at done'
    cases done'
    exact changed kept
  obtain ⟨-, silent, -, tests⟩ := override_settles plain ordered (by decide : contained.Plain)
  have within : contained.Contained defaults := silent.1 ⟨defaults, by rfl, rfl⟩
  exact ⟨merged, _, done, changed, (again merged done).2, apart, created,
    fun desk => ((tests _ _ created within).2 desk).1⟩

end Generator

end ManualTraffic
