/-
# ManualTraffic.Proofs.Generator.Announcement -- what the operator sees of the frame size

The configuration of a test has two readers.  The operator is shown its own entries, the
frame size is read through its layers.  The two agree on a configuration that lies on the
common root, and so does its `l2` (`Grounded.shows`).  A test has such a configuration
unless the reserved key stands in its override or in the `l2` of it (`Unlayered`).  The
defaults may have that key anywhere: the copy that a generator makes of them has no entry
under it, and the copy of that copy has no layer either.

With the reserved key in the override the merge puts its result on a layer, and a frame
size there is used and not shown (`layered_frame_size_not_shown`).
-/
import ManualTraffic.Proofs.FlowConfig.Merge
import ManualTraffic.Proofs.FlowConfig.OwnEntries
import ManualTraffic.Proofs.Generator.Errand

namespace ManualTraffic

set_option autoImplicit false

namespace FlowConfig

variable {config defaults override merged : FlowConfig} {k place : String} {size : Binary64}

/-! ## Layers under the frame size -/

/-- A configuration lies on the common root, and so does its own `l2`. -/
structure Grounded (config : FlowConfig) : Prop where
  onRoot : config.lowest = .root
  within : ∀ l2, config.own? "l2" = some (.mapping l2) → l2.lowest = .root

/-- A configuration has no entry under the reserved key, and neither has its own `l2`. -/
structure Unlayered (config : FlowConfig) : Prop where
  distinct : config.Distinct
  free : config.own? layerKey = none
  within : ∀ l2, config.own? "l2" = some (.mapping l2) → l2.own? layerKey = none

theorem Plain.unlayered (plain : config.Plain) : config.Unlayered where
  distinct := plain.distinct
  free := own?_layerKey plain.layerFree
  within _ own := own?_layerKey (layerFree_of_own? plain.layerFree own).2

theorem Tidy.grounded (tidy : config.Tidy) : config.Grounded where
  onRoot := tidy.inOrder.lowest_eq
  within _ own := (tidy.of_own? own).inOrder.lowest_eq

/-- A merge leaves the layers alone where its override does. -/
theorem grounded_mergeAt (plain : defaults.Plain) (unlayered : override.Unlayered)
    (done : mergeAt place defaults override = .ok merged) : merged.Grounded where
  onRoot := lowest_mergeInto plain.clone.onRoot unlayered.free done
  within l2 own := by
    have laid := own?_mergeAt plain unlayered.distinct unlayered.free done "l2"
    rw [own] at laid
    exact laid.lowest unlayered.within fun _ => plain.of_own?

/-! ## Frame sizes in JSON objects -/

/-- A JSON object has an own mapping `l2` with an own number `framesize`. -/
def ShowsFrameSize (shown : Json) (size : Binary64) : Prop :=
  ∃ members l2, shown = .object members ∧ members.lookup "l2" = some (.object l2) ∧
    l2.lookup "framesize" = some (.number size)

theorem Grounded.own?_of_has (grounded : config.Grounded) (has : config.HasFrameSize size) :
    ∃ l2, config.own? "l2" = some (.mapping l2) ∧
      l2.own? "framesize" = some (.scalar (.number size)) := by
  obtain ⟨l2, atL2, atSize, -⟩ := has
  have own : config.own? "l2" = some (.mapping l2) :=
    own?_of_read_mapping grounded.onRoot (by decide) atL2
  exact ⟨l2, own, own?_of_read_scalar (grounded.within l2 own) (by decide) atSize⟩

theorem Grounded.nodeAt?_of_has (grounded : config.Grounded) (has : config.HasFrameSize size) :
    config.nodeAt? ["l2", "framesize"] = some (.scalar (.number size)) := by
  obtain ⟨l2, atL2, atSize⟩ := grounded.own?_of_has has
  rw [nodeAt?_cons, atL2]
  show l2.nodeAt? ["framesize"] = _
  rw [nodeAt?_cons, atSize]
  rfl

/-- A configuration on the common root shows the frame size that it has. -/
theorem Grounded.shows (grounded : config.Grounded) (has : config.HasFrameSize size) :
    ShowsFrameSize config.toJson size := by
  obtain ⟨l2, atL2, atSize⟩ := grounded.own?_of_has has
  refine ⟨config.toMembers, l2.toMembers, rfl, ?_, ?_⟩
  · rw [lookup_toMembers, atL2]
    rfl
  · rw [lookup_toMembers, atSize]
    rfl

end FlowConfig

namespace Generator

variable {generator : Generator} {errand : Errand} {flow given : FlowConfig} {name : String}
  {override : Option FlowConfig}

/-! ## The configuration of a test -/

theorem defaults_of_create (created : create name given = .ok generator) :
    generator.defaults = given.clone := by
  unfold create at created
  split at created
  · cases created
    rfl
  · cases created

/-- The defaults of a generator are plain, whatever keys it was given. -/
theorem plain_of_create (created : create name given = .ok generator) (distinct : given.Distinct) :
    generator.defaults.Plain := by
  rw [defaults_of_create created]
  exact FlowConfig.plain_clone distinct

theorem grounded_of_effective (plain : generator.defaults.Plain)
    (unlayered : ∀ config, override = some config → config.Unlayered)
    (merged : generator.effective override = .ok flow) : flow.Grounded := by
  cases override with
  | none =>
      cases merged
      exact plain.tidy_clone.grounded
  | some config =>
      exact FlowConfig.grounded_mergeAt plain (unlayered config rfl) (merge_of_effective merged)

/-! ## What is announced -/

/-- A test is refused without a word, or it announces its configuration, and the object
that is shown there has the frame size that its figures are made of. -/
structure Announces {σ α : Type} [Console σ] (generator : Generator) (errand : Errand)
    (figures : Binary64 → (String → Binary64) → α) (desk : Desk σ)
    (result : EStateM.Result Fault (Desk σ) α) : Prop where
  carried : Carried generator errand figures desk result
  shows : ∀ flow framesize, Prepared generator errand flow framesize →
    FlowConfig.ShowsFrameSize flow.toJson framesize

section

variable {σ α : Type} [Console σ] {figures : Binary64 → (String → Binary64) → α}
  {test : EStateM Fault (Desk σ) α}

theorem Carries.announces (carries : Carries generator errand figures test)
    (stats : errand.stats.Nodup) (plain : generator.defaults.Plain)
    (unlayered : ∀ config, errand.override = some config → config.Unlayered) (desk : Desk σ) :
    Announces generator errand figures desk (test desk) where
  carried := carries.carried stats desk
  shows _ _ prepared :=
    (grounded_of_effective plain unlayered prepared.merged).shows prepared.sized

/-- **The operator is shown the frame size that the figures are made of**, where the
reserved key stands neither in the override nor in its `l2`.  Other keys may be any there,
and so may all keys of the defaults. -/
theorem tests_announce (created : create name given = .ok generator) (distinct : given.Distinct)
    (desk : Desk σ) :
    (∀ plan : BurstPlan, (∀ config, plan.flow = some config → config.Unlayered) →
        Announces generator (burstErrand plan) (burstFigures plan.numpkts) desk
          (generator.burst plan desk)) ∧
      (∀ plan : ContinuousPlan, (∀ config, plan.flow = some config → config.Unlayered) →
        Announces generator (continuousErrand plan) (runFigures plan.time) desk
          (generator.continuous plan desk)) ∧
      ∀ plan : ThroughputPlan, (∀ config, plan.flow = some config → config.Unlayered) →
        Announces generator (throughputErrand plan) (runFigures plan.duration) desk
          (generator.throughput plan desk) := by
  have plain := plain_of_create created distinct
  refine ⟨fun plan unlayered => ?_, fun plan unlayered => ?_, fun plan unlayered => ?_⟩
  · exact (burst_carries generator plan).announces burstStats_nodup plain unlayered desk
  · exact (continuous_carries generator plan).announces throughputStats_nodup plain unlayered desk
  · exact (throughput_carries generator plan).announces throughputStats_nodup plain unlayered desk

end

/-- A layer that the defaults ask for is gone from the configuration of a test, and one
below `l3` of the override does no harm. -/
theorem tests_announce_layered_defaults :
    let given : FlowConfig :=
      .mapping FlowConfig.layerKey (.ofFrameSize (.ofNat false 9))
        (.ofFrameSize (.ofNat false 64))
    let override : FlowConfig := .mapping "l3" (.mapping FlowConfig.layerKey .root .root) .root
    let plan := BurstOptions.plan { flow := some override, numpkts := some (.ofNat false 10) }
    let desk : Desk ScriptedOperator := ⟨⟨["10", "", "0", "", "0", ""], []⟩, ⟨none, []⟩⟩
    ∃ generator, create "Dummy" given = .ok generator ∧ given.Distinct ∧ override.Unlayered ∧
      Announces generator (burstErrand plan) (burstFigures plan.numpkts) desk
        (generator.burst plan desk) := by
  intro given override plan desk
  have created : create "Dummy" given = .ok ⟨given.clone⟩ := by
    rw [create, if_pos (by decide +kernel)]
  have distinct : given.Distinct := by decide
  have unlayered : override.Unlayered := ⟨by decide, rfl, fun _ own => nomatch own⟩
  have announces := (tests_announce created distinct desk).1 plan
  refine ⟨_, created, distinct, unlayered, announces fun config same => ?_⟩
  cases same
  exact unlayered

/-- An override with the reserved key, as a text writes it: the merge puts its result on a
layer, the operator is shown an empty object, and the burst is figured at 64. -/
theorem layered_frame_size_not_shown :
    let size : Binary64 := .ofNat false 64
    let override : FlowConfig := .mapping FlowConfig.layerKey (.ofFrameSize size) .root
    let plan := BurstOptions.plan { flow := some override }
    let desk : Desk ScriptedOperator := ⟨⟨["0", "", "0", "", "0", ""], []⟩, ⟨none, []⟩⟩
    ∃ generator flow outcome after,
      create "dummy" .root = .ok generator ∧
      (Json.parse? "\x7b\"__proto__\":\x7b\"l2\":\x7b\"framesize\":64\x7d\x7d\x7d".toList).bind
        FlowConfig.ofJson? = some override ∧
      flow.toJson = .object [] ∧
      generator.burst plan desk = .ok outcome after ∧
      after.console.shown.head? = some ((burstErrand plan).told flow) ∧
      (.txBytes, size * plan.numpkts) ∈ outcome.results ∧
      ¬Announces generator (burstErrand plan) (burstFigures plan.numpkts) desk
        (generator.burst plan desk) := by
  intro size override plan desk
  have created : create "dummy" .root = .ok ⟨.root⟩ := by
    rw [create, if_pos (by decide +kernel)]
    rfl
  have sized : (FlowConfig.over (.ofFrameSize size)).HasFrameSize size :=
    ⟨_, rfl, rfl, by decide +kernel⟩
  have prepared : Prepared ⟨.root⟩ (burstErrand plan) (.over (.ofFrameSize size)) size :=
    ⟨lasts_burstErrand plan, rfl, sized⟩
  obtain ⟨journal, returned⟩ := (burst_carries ⟨.root⟩ plan).completes prepared
    (fun _ => default) [] [] ⟨none, []⟩
  refine ⟨_, _, _, _, created, by decide +kernel, ?_, returned, rfl, ?_, ?_⟩
  · rfl
  · exact .tail _ (.tail _ (.head _))
  · rintro ⟨-, shows⟩
    obtain ⟨members, l2, same, atL2, -⟩ := shows _ _ prepared
    cases same
    cases atL2

end Generator

end ManualTraffic
