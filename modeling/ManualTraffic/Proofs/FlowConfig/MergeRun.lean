/-
# ManualTraffic.Proofs.FlowConfig.MergeRun -- the closed form of a run of merges

A run of merges takes its state from the defaults and from the overrides that were not
refused: its *sources* (`sources`).  Laying shapes over one another forgets all but
two things, whether one of them was a mapping and which came last, and so does a run
(`nodeAt?_mergeAll`): a node stands where a source has one, a mapping
where a source has a mapping, and elsewhere the scalar of the last source that has a
node there.
-/
import ManualTraffic.Proofs.FlowConfig.Merge
import Mathlib.Data.List.Induction

namespace ManualTraffic

set_option autoImplicit false

namespace FlowConfig

variable {defaults state : FlowConfig} {overrides earlier later : List FlowConfig}
  {path : List String}

/-- The overrides of a run that were not refused, in order. -/
def accepted (state : FlowConfig) : List FlowConfig → List FlowConfig
  | [] => []
  | override :: overrides =>
      match state.merge override with
      | .ok merged => override :: accepted merged overrides
      | .error _ => accepted state overrides

/-- What a run takes its state from: the defaults and the overrides that were not
refused. -/
def sources (defaults : FlowConfig) (overrides : List FlowConfig) : List FlowConfig :=
  defaults :: accepted defaults overrides

/-! ## Shapes laid over one another -/

/-- Shapes laid over one another, the first one lowest. -/
def Shape.overAll (shapes : List (Option Shape)) : Option Shape :=
  shapes.foldl (fun lower upper => Shape.over upper lower) none

theorem Shape.overAll_append {shapes : List (Option Shape)} {upper : Option Shape} :
    overAll (shapes ++ [upper]) = Shape.over upper (overAll shapes) := by
  rw [overAll, List.foldl_append]
  rfl

theorem Shape.overAll_cons_cons {first second : Option Shape} {shapes : List (Option Shape)} :
    overAll (first :: second :: shapes) = overAll (Shape.over second first :: shapes) := by
  simp only [overAll, List.foldl_cons, over_none]

theorem Shape.overAll_eq_mapping_iff {shapes : List (Option Shape)} :
    overAll shapes = some .mapping ↔ some .mapping ∈ shapes := by
  induction shapes using List.reverseRecOn with
  | nil => simp [overAll]
  | append_singleton shapes upper ih =>
      rw [overAll_append, over_eq_mapping_iff, ih, List.mem_append, List.mem_singleton]
      exact or_comm.trans (or_congr_right eq_comm)

theorem Shape.overAll_eq_none_iff {shapes : List (Option Shape)} :
    overAll shapes = none ↔ ∀ shape ∈ shapes, shape = none := by
  induction shapes using List.reverseRecOn with
  | nil => simp [overAll]
  | append_singleton shapes upper ih =>
      rw [overAll_append, over_eq_none_iff, ih, List.forall_mem_append, List.forall_mem_singleton]
      exact and_comm

/-- Where no mapping is among them, the last shape there is stays. -/
theorem Shape.overAll_of_unmapped {shapes : List (Option Shape)}
    (unmapped : some .mapping ∉ shapes) : overAll shapes = (shapes.filterMap id).getLast? := by
  induction shapes using List.reverseRecOn with
  | nil => rfl
  | append_singleton shapes upper ih =>
      rw [List.mem_append, List.mem_singleton, not_or] at unmapped
      obtain ⟨lowerUnmapped, upperUnmapped⟩ := unmapped
      rw [overAll_append, List.filterMap_append]
      rcases upper with _ | ⟨value⟩ | _
      · simpa [Shape.over] using ih lowerUnmapped
      · -- A later scalar hides what lies below it, which is no mapping.
        rcases lower : overAll shapes with _ | ⟨below⟩ | _
        · simp [Shape.over]
        · simp [Shape.over]
        · exact absurd (overAll_eq_mapping_iff.1 lower) lowerUnmapped
      · exact absurd rfl upperUnmapped

/-! ## Runs -/

theorem accepted_append :
    accepted state (earlier ++ later) =
      accepted state earlier ++ accepted (state.mergeAll earlier) later := by
  induction earlier generalizing state with
  | nil => rfl
  | cons override earlier ih =>
      rw [List.cons_append, accepted, accepted, mergeAll]
      cases state.merge override with
      | ok merged => exact congrArg (override :: ·) ih
      | error conflict => exact ih

/-- A run lays the shapes of its sources over one another. -/
theorem shapeAt?_mergeAll (plain : defaults.Plain) (plains : ∀ override ∈ overrides, override.Plain) :
    (defaults.mergeAll overrides).shapeAt? path =
      Shape.overAll ((sources defaults overrides).map fun source => source.shapeAt? path) := by
  induction overrides generalizing defaults with
  | nil => exact (Shape.over_none _).symm
  | cons override overrides ih =>
      obtain ⟨overridePlain, plains⟩ := List.forall_mem_cons.1 plains
      rw [mergeAll, sources, accepted]
      cases done : defaults.merge override with
      | error conflict => exact ih plain plains
      | ok merged =>
          have mergedPlain := (plain.mergeAt overridePlain done).toPlain
          refine (ih mergedPlain plains).trans ?_
          simp only [sources, List.map_cons, Shape.overAll_cons_cons,
            shapeAt?_mergeAt plain overridePlain done]

/-! ## From shapes to nodes -/

/-- Without a mapping, nodes are known by their shapes. -/
theorem Node.eq_of_shape_eq {here there : Option Node} (same : here.map shape = there.map shape)
    (unmapped : ∀ inner, there ≠ some (.mapping inner)) : here = there := by
  rcases there with _ | ⟨value⟩ | ⟨inner⟩
  · simpa using same
  · rcases here with _ | ⟨other⟩ | ⟨inner⟩ <;> simp_all [Node.shape]
  · exact absurd rfl (unmapped inner)

section Run

variable (plain : defaults.Plain) (plains : ∀ override ∈ overrides, override.Plain)
  (path : List String)

include plain plains

theorem exists_node_mergeAll :
    ((defaults.mergeAll overrides).nodeAt? path).isSome ↔
      ∃ source ∈ sources defaults overrides, (source.nodeAt? path).isSome := by
  simp only [← isSome_shapeAt?, ← Option.ne_none_iff_isSome, ne_eq,
    shapeAt?_mergeAll plain plains, Shape.overAll_eq_none_iff, List.forall_mem_map, not_forall,
    exists_prop]

theorem exists_mapping_mergeAll :
    (∃ inner, (defaults.mergeAll overrides).nodeAt? path = some (.mapping inner)) ↔
      ∃ source ∈ sources defaults overrides, ∃ inner,
        source.nodeAt? path = some (.mapping inner) := by
  simp only [← shapeAt?_eq_mapping_iff, shapeAt?_mergeAll plain plains,
    Shape.overAll_eq_mapping_iff, List.mem_map]

theorem nodeAt?_mergeAll_of_unmapped
    (unmapped : ∀ source ∈ sources defaults overrides, ∀ inner,
      source.nodeAt? path ≠ some (.mapping inner)) :
    (defaults.mergeAll overrides).nodeAt? path =
      ((sources defaults overrides).filterMap fun source => source.nodeAt? path).getLast? := by
  apply Node.eq_of_shape_eq
  · have none_mapped : some .mapping ∉
        (sources defaults overrides).map fun source => source.shapeAt? path := by
      simp only [List.mem_map, shapeAt?_eq_mapping_iff, not_exists, not_and]
      exact unmapped
    calc ((defaults.mergeAll overrides).nodeAt? path).map Node.shape
        = Shape.overAll ((sources defaults overrides).map fun source => source.shapeAt? path) :=
          shapeAt?_mergeAll plain plains
      _ = (((sources defaults overrides).map fun source =>
            source.shapeAt? path).filterMap id).getLast? := Shape.overAll_of_unmapped none_mapped
      _ = (((sources defaults overrides).filterMap fun source =>
            source.nodeAt? path).getLast?).map Node.shape := by
          rw [← List.getLast?_map, List.map_filterMap, List.filterMap_map]
          rfl
  · intro inner last
    obtain ⟨source, member, found⟩ := List.mem_filterMap.1 (List.mem_of_getLast? last)
    exact unmapped source member inner found

end Run

theorem sources_subset_append : sources defaults earlier ⊆ sources defaults (earlier ++ later) := by
  rw [sources, sources, accepted_append]
  exact List.cons_subset_cons _ (List.subset_append_left _ _)

/-- **The closed form of a run of merges.**  At every path the last good state has a node
exactly where a source has one, a mapping exactly where a source has one, and elsewhere
what the last source with a node there has.  No merge of the run loses a node or turns
a mapping into a scalar. -/
theorem nodeAt?_mergeAll (plain : defaults.Plain) (plains : ∀ override ∈ overrides, override.Plain)
    (path : List String) :
    (((defaults.mergeAll overrides).nodeAt? path).isSome ↔
        ∃ source ∈ sources defaults overrides, (source.nodeAt? path).isSome) ∧
      ((∃ inner, (defaults.mergeAll overrides).nodeAt? path = some (.mapping inner)) ↔
        ∃ source ∈ sources defaults overrides, ∃ inner,
          source.nodeAt? path = some (.mapping inner)) ∧
      ((∀ source ∈ sources defaults overrides, ∀ inner,
          source.nodeAt? path ≠ some (.mapping inner)) →
        (defaults.mergeAll overrides).nodeAt? path =
          ((sources defaults overrides).filterMap fun source => source.nodeAt? path).getLast?) ∧
      ∀ earlier later, overrides = earlier ++ later →
        (((defaults.mergeAll earlier).nodeAt? path).isSome →
          ((defaults.mergeAll overrides).nodeAt? path).isSome) ∧
        ((∃ inner, (defaults.mergeAll earlier).nodeAt? path = some (.mapping inner)) →
          ∃ inner, (defaults.mergeAll overrides).nodeAt? path = some (.mapping inner)) := by
  refine ⟨exists_node_mergeAll plain plains path, exists_mapping_mergeAll plain plains path,
    nodeAt?_mergeAll_of_unmapped plain plains path, ?_⟩
  rintro earlier later rfl
  have earlierPlains := fun override member => plains override (List.mem_append_left later member)
  constructor
  · intro there
    obtain ⟨source, member, found⟩ := (exists_node_mergeAll plain earlierPlains path).1 there
    exact (exists_node_mergeAll plain plains path).2 ⟨source, sources_subset_append member, found⟩
  · intro there
    obtain ⟨source, member, found⟩ := (exists_mapping_mergeAll plain earlierPlains path).1 there
    exact (exists_mapping_mergeAll plain plains path).2
      ⟨source, sources_subset_append member, found⟩

/-- A run with a refused override, and with a key that the common root has a function
for. -/
theorem nodeAt?_mergeAll_constructor :
    let defaults : FlowConfig := .mapping "l3" (.scalar "proto" (.string "udp") .root) .root
    let overrides : List FlowConfig :=
      [.scalar "l3" .null .root,
        .scalar "constructor" (.bool true) .root,
        .mapping "constructor" (.scalar "1" .null .root)
          (.mapping "l3" (.scalar "proto" (.string "tcp") .root) .root)]
    defaults.Plain ∧ (∀ override ∈ overrides, override.Plain) ∧
      (defaults.mergeAll overrides).nodeAt? ["l3", "proto"] = some (.scalar (.string "tcp")) ∧
      ∃ inner, (defaults.mergeAll overrides).nodeAt? ["constructor"] = some (.mapping inner) := by
  intro defaults overrides
  have plain : defaults.Plain := by decide
  have plains : ∀ override ∈ overrides, override.Plain := by decide
  have taken : sources defaults overrides = defaults :: overrides.tail := by decide
  have unmapped : ∀ source ∈ sources defaults overrides, ∀ inner,
      source.nodeAt? ["l3", "proto"] ≠ some (.mapping inner) := by
    intro source member inner found
    rw [taken] at member
    rcases member with _ | ⟨_, _ | ⟨_, _ | ⟨_, member⟩⟩⟩
    · cases found
    · cases found
    · cases found
    · cases member
  refine ⟨plain, plains, ?_, ?_⟩
  · exact ((nodeAt?_mergeAll plain plains ["l3", "proto"]).2.2.1 unmapped).trans (by decide)
  · exact (nodeAt?_mergeAll plain plains ["constructor"]).2.1.2
      ⟨_, .tail _ (.tail _ (.head _)), _, rfl⟩

end FlowConfig

end ManualTraffic
