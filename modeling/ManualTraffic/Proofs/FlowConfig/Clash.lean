/-
# ManualTraffic.Proofs.FlowConfig.Clash -- when a merge is refused, and where

An override clashes with the defaults at a path where it has a scalar and they have a
mapping (`Clash`).  A merge goes through the scalars of the override depth first
(`scalarPaths`) and stops at the first one that clashes (`conflict?_mergeInto`), so one
clash is enough to refuse it, and of several the first one is told.

The keys of the defaults do not matter for which one is first, and what was written
before does not either: a write under one key leaves what stands under the others.
-/
import ManualTraffic.Proofs.FlowConfig.Merge
import Mathlib.Data.List.Find

namespace ManualTraffic

set_option autoImplicit false

namespace FlowConfig

variable {config defaults override merged rest inner : FlowConfig} {key k place : String}
  {path : List String} {node written : Node}

/-! ## The scalars of a configuration -/

/-- The paths at which a configuration has a scalar, depth first. -/
def scalarPaths : FlowConfig → List (List String)
  | .root | .bare | .over _ => []
  | .scalar key _ rest => [key] :: rest.scalarPaths
  | .mapping key inner rest => inner.scalarPaths.map (key :: ·) ++ rest.scalarPaths

def Node.scalarPaths : Node → List (List String)
  | .scalar _ => [[]]
  | .mapping config => config.scalarPaths

theorem scalarPaths_entry :
    (entry key node rest).scalarPaths = node.scalarPaths.map (key :: ·) ++ rest.scalarPaths := by
  cases node <;> rfl

theorem scalarPaths_under (there : path ∈ config.scalarPaths) :
    ∃ k deeper, path = k :: deeper ∧ k ∈ config.keys := by
  induction config using entryInduction with
  | root | bare | layered => cases there
  | entry key node rest _ ih =>
      rw [scalarPaths_entry, List.mem_append] at there
      rw [keys_entry]
      rcases there with there | there
      · obtain ⟨deeper, -, rfl⟩ := List.mem_map.1 there
        exact ⟨key, deeper, rfl, List.mem_cons_self⟩
      · obtain ⟨k, deeper, rfl, member⟩ := ih there
        exact ⟨k, deeper, rfl, List.mem_cons_of_mem _ member⟩

theorem cons_mem_scalarPaths (distinct : config.Distinct) :
    k :: path ∈ config.scalarPaths ↔
      ∃ node, config.own? k = some node ∧ path ∈ node.scalarPaths := by
  induction config using entryInduction with
  | root | bare | layered => simp [scalarPaths, own?]
  | entry key node rest _ ih =>
      obtain ⟨fresh, -, restDistinct⟩ := distinct_entry.1 distinct
      rw [scalarPaths_entry, List.mem_append, List.mem_map, own?_entry, ih restDistinct]
      by_cases hit : key = k
      · subst hit
        simp [fresh]
      · simp [hit]

theorem mem_scalarPaths (distinct : config.Distinct) :
    path ∈ config.scalarPaths ↔ ∃ value, config.nodeAt? path = some (.scalar value) := by
  induction path generalizing config with
  | nil =>
      rw [nodeAt?_nil]
      constructor
      · intro there
        obtain ⟨k, deeper, empty, -⟩ := scalarPaths_under there
        cases empty
      · rintro ⟨value, there⟩
        cases there
  | cons k path ih =>
      simp only [cons_mem_scalarPaths distinct, nodeAt?_cons, Option.bind_eq_some_iff]
      rw [exists_comm]
      refine exists_congr fun node => ?_
      rw [exists_and_left]
      refine and_congr_right fun own => ?_
      cases node with
      | mapping inner => exact ih (distinct_of_own? distinct own)
      | scalar value => cases path <;> simp [Node.scalarPaths, Node.nodeAt?]

/-! ## Clashes -/

/-- The override has a scalar where the defaults have a mapping. -/
def Clash (defaults override : FlowConfig) (path : List String) : Prop :=
  (∃ inner, defaults.nodeAt? path = some (.mapping inner)) ∧
    ∃ value, override.nodeAt? path = some (.scalar value)

/-- A scalar over a mapping. -/
def Shape.Clash (lower upper : Option Shape) : Prop :=
  lower = some .mapping ∧ ∃ value, upper = some (.scalar value)

/-- Whether a configuration has a mapping at a path. -/
def hasMapping (config : FlowConfig) (path : List String) : Bool :=
  config.shapeAt? path = some .mapping

/-- The conflict at which a merge was refused. -/
def conflict? {α : Type} : Except MergeConflict α → Option MergeConflict
  | .ok _ => none
  | .error conflict => some conflict

theorem hasMapping_under {current : FlowConfig} (own : config.own? k = some (.mapping current)) :
    config.hasMapping (k :: path) = current.hasMapping path := by
  rw [hasMapping, shapeAt?_under own, hasMapping]

theorem not_hasMapping_under (unmapped : ∀ current, config.own? k ≠ some (.mapping current)) :
    config.hasMapping (k :: path) = false := by
  simp only [hasMapping, shapeAt?, nodeAt?_cons]
  rcases own : config.own? k with _ | ⟨value⟩ | ⟨current⟩
  · simp
  · cases path <;> simp [Node.nodeAt?, Node.shape]
  · exact absurd own (unmapped current)

theorem hasMapping_clone (plain : config.Plain) : config.clone.hasMapping = config.hasMapping := by
  funext path
  simp only [hasMapping, shapeAt?_clone plain]

theorem hasMapping_put (free : key ≠ layerKey) (ne : key ≠ k) :
    (config.put key node).hasMapping (k :: path) = config.hasMapping (k :: path) := by
  simp only [hasMapping, shapeAt?, nodeAt?_cons, own?_put free, if_neg ne]

/-- The path of a conflict goes on from the place of the merge. -/
def conflictAt (place : String) (path : List String) : MergeConflict := ⟨path.foldl keyPath place⟩

/-- What is written for one entry is refused at the first scalar in it where there is a
mapping, if that is so for the merges within it. -/
theorem conflict?_over (fresh : merged.Fresh)
    (within : ∀ inner, node = .mapping inner → ∀ {base : FlowConfig} {place : String}, base.Fresh →
      conflict? (mergeInto base place inner) =
        (inner.scalarPaths.find? base.hasMapping).map (conflictAt place)) :
    conflict? (node.over (keyPath place key) (merged.own? key)) =
      ((node.scalarPaths.map (key :: ·)).find? merged.hasMapping).map (conflictAt place) := by
  by_cases mapped : ∃ current, merged.own? key = some (.mapping current)
  · obtain ⟨current, own⟩ := mapped
    have along : (merged.hasMapping ∘ fun path => key :: path) = current.hasMapping :=
      funext fun path => hasMapping_under own
    rw [own, List.find?_map, along, Option.map_map]
    cases node with
    | scalar value => rfl
    | mapping inner =>
        have currentPlain := Node.plain_mapping.1 (fresh.toPlain.of_own? own)
        have inside : conflict? (mergeInto current.clone (keyPath place key) inner) = _ :=
          within inner rfl currentPlain.clone
        rw [hasMapping_clone currentPlain] at inside
        rw [Node.over, mergeAt]
        refine Eq.trans ?_ inside
        cases mergeInto current.clone (keyPath place key) inner <;> rfl
  · have unmapped := not_exists.1 mapped
    have nowhere : (node.scalarPaths.map (key :: ·)).find? merged.hasMapping = none := by
      simp [List.find?_eq_none, not_hasMapping_under unmapped]
    rw [nowhere]
    rcases own : merged.own? key with _ | ⟨value⟩ | ⟨current⟩
    · cases node <;> rfl
    · cases node <;> rfl
    · exact absurd own (unmapped current)

/-- A merge is refused at the first scalar of the override where there is a mapping. -/
theorem conflict?_mergeInto (fresh : merged.Fresh) (plain : override.Plain) :
    conflict? (mergeInto merged place override) =
      (override.scalarPaths.find? merged.hasMapping).map (conflictAt place) := by
  induction override using entryInduction generalizing merged place with
  | root | bare | layered => rfl
  | entry key node rest below ih =>
      obtain ⟨free, absent, nodePlain, restPlain⟩ := plain_entry.1 plain
      have here : conflict? (node.over (keyPath place key) (merged.own? key)) = _ :=
        conflict?_over fresh fun inner same _ _ base =>
          below inner same base (Node.plain_mapping.1 (same ▸ nodePlain))
      rw [mergeInto_entry fresh.onRoot free, scalarPaths_entry, List.find?_append]
      cases step : node.over (keyPath place key) (merged.own? key) with
      | error conflict =>
          rw [step] at here
          obtain ⟨path, first, -⟩ := Option.map_eq_some_iff.1 here.symm
          rw [first] at here ⊢
          exact here
      | ok written =>
          rw [step] at here
          rw [Option.map_eq_none_iff.1 here.symm, Option.none_or]
          have writtenPlain : written.Plain :=
            plain_of_over nodePlain (fun _ own => fresh.toPlain.of_own? own) step
          -- what was written stands under a key that the rest does not have
          have untouched : ∀ path ∈ rest.scalarPaths,
              (merged.put key written).hasMapping path = merged.hasMapping path := by
            intro path there
            obtain ⟨k, deeper, rfl, member⟩ := scalarPaths_under there
            exact hasMapping_put free fun same => not_mem_keys.2 absent (same ▸ member)
          rw [← List.find?_congr untouched]
          exact ih (fresh.put free writtenPlain) restPlain

/-! ## Refusals -/

theorem hasMapping_iff :
    config.hasMapping path = true ↔ ∃ inner, config.nodeAt? path = some (.mapping inner) := by
  rw [hasMapping, decide_eq_true_iff, shapeAt?_eq_mapping_iff]

theorem clash_iff (distinct : override.Distinct) :
    Clash defaults override path ↔
      path ∈ override.scalarPaths ∧ defaults.hasMapping path = true := by
  rw [Clash, mem_scalarPaths distinct, hasMapping_iff]
  exact and_comm

/-- Whether two configurations clash shows in their shapes. -/
theorem clash_iff_shapes :
    Clash defaults override path ↔
      Shape.Clash (defaults.shapeAt? path) (override.shapeAt? path) := by
  simp only [Clash, Shape.Clash, shapeAt?_eq_mapping_iff, shapeAt?_eq_scalar_iff]

/-- A clash with none before it in the depth-first order of the override. -/
structure FirstClash (defaults override : FlowConfig) (path : List String) : Prop where
  clash : Clash defaults override path
  first : ∃ earlier later, override.scalarPaths = earlier ++ path :: later ∧
    ∀ other ∈ earlier, ¬Clash defaults override other

theorem find?_eq_some_iff (distinct : override.Distinct) :
    override.scalarPaths.find? defaults.hasMapping = some path ↔
      FirstClash defaults override path := by
  rw [List.find?_eq_some_iff_append]
  constructor
  · rintro ⟨mapped, earlier, later, split, free⟩
    have there : path ∈ override.scalarPaths := by simp [split]
    refine ⟨(clash_iff distinct).2 ⟨there, mapped⟩, earlier, later, split, ?_⟩
    intro other before clash
    simpa [((clash_iff distinct).1 clash).2] using free other before
  · rintro ⟨clash, earlier, later, split, free⟩
    refine ⟨((clash_iff distinct).1 clash).2, earlier, later, split, ?_⟩
    intro other before
    have there : other ∈ override.scalarPaths := by simp [split, before]
    cases mapped : defaults.hasMapping other with
    | false => rfl
    | true => exact absurd ((clash_iff distinct).2 ⟨there, mapped⟩) (free other before)

section Refusals

variable (plain : defaults.Plain) (overridePlain : override.Plain)

include plain overridePlain

theorem conflict?_mergeAt :
    conflict? (mergeAt place defaults override) =
      (override.scalarPaths.find? defaults.hasMapping).map (conflictAt place) := by
  rw [mergeAt, conflict?_mergeInto plain.clone overridePlain, hasMapping_clone plain]

theorem mergeAt_eq_error_iff {conflict : MergeConflict} :
    mergeAt place defaults override = .error conflict ↔
      ∃ path, FirstClash defaults override path ∧ conflict = conflictAt place path := by
  have told : mergeAt place defaults override = .error conflict ↔
      conflict? (mergeAt place defaults override) = some conflict := by
    cases mergeAt place defaults override <;> simp [conflict?]
  rw [told, conflict?_mergeAt plain overridePlain, Option.map_eq_some_iff]
  simp only [find?_eq_some_iff overridePlain.distinct, eq_comm]

/-- A merge succeeds where nothing clashes. -/
theorem mergeAt_eq_ok_iff :
    (∃ merged, mergeAt place defaults override = .ok merged) ↔
      ∀ path, ¬Clash defaults override path := by
  have told : (∃ merged, mergeAt place defaults override = .ok merged) ↔
      conflict? (mergeAt place defaults override) = none := by
    cases mergeAt place defaults override <;> simp [conflict?]
  rw [told, conflict?_mergeAt plain overridePlain, Option.map_eq_none_iff, List.find?_eq_none]
  simp only [clash_iff overridePlain.distinct, not_and]

theorem exists_merge_iff :
    (∃ merged, mergeAt place defaults override = .ok merged) ↔
      ∀ path, ¬Shape.Clash (defaults.shapeAt? path) (override.shapeAt? path) := by
  simp only [mergeAt_eq_ok_iff plain overridePlain, clash_iff_shapes]

/-- No scalar of an override that was merged met a mapping. -/
theorem apart_of_merge (done : mergeAt place defaults override = .ok merged)
    (path : List String) :
    ¬Shape.Clash (defaults.shapeAt? path) (override.shapeAt? path) :=
  (exists_merge_iff plain overridePlain).1 ⟨merged, done⟩ path

theorem exists_refusal_iff :
    (∃ conflict, mergeAt place defaults override = .error conflict) ↔
      ∃ path, Clash defaults override path := by
  constructor
  · rintro ⟨conflict, refused⟩
    obtain ⟨path, first, -⟩ := (mergeAt_eq_error_iff plain overridePlain).1 refused
    exact ⟨path, first.clash⟩
  · rintro ⟨path, clash⟩
    cases outcome : mergeAt place defaults override with
    | error conflict => exact ⟨conflict, rfl⟩
    | ok merged =>
        have apart := (mergeAt_eq_ok_iff plain overridePlain).1 ⟨merged, outcome⟩
        exact absurd clash (apart path)

end Refusals

/-! ## Key order -/

/-- Two paths part, and the first one goes on with a key that precedes that of the
second. -/
def Sooner (first second : List String) : Prop :=
  ∃ common k k' deeper deeper', first = common ++ k :: deeper ∧
    second = common ++ k' :: deeper' ∧ KeyOrder.precedes k k' = true

theorem sooner_cons {first second : List String} (sooner : Sooner (key :: first) (k :: second)) :
    KeyOrder.precedes key k = true ∨ key = k ∧ Sooner first second := by
  obtain ⟨common, here, there, deeper, deeper', firstIs, secondIs, ahead⟩ := sooner
  cases common with
  | nil =>
      cases firstIs
      cases secondIs
      exact .inl ahead
  | cons step common =>
      cases firstIs
      cases secondIs
      exact .inr ⟨rfl, common, here, there, deeper, deeper', rfl, rfl, ahead⟩

/-- With keys in key order, no scalar comes behind one that it should precede. -/
theorem scalarPaths_inOrder (distinct : config.Distinct) (inOrder : config.InOrder) :
    config.scalarPaths.Pairwise fun earlier later => ¬Sooner later earlier := by
  induction config using entryInduction with
  | root | bare | layered => exact .nil
  | entry key node rest below ih =>
      obtain ⟨fresh, nodeDistinct, restDistinct⟩ := distinct_entry.1 distinct
      have ordered := inOrder.keys
      rw [keys_entry] at ordered
      rw [scalarPaths_entry, List.pairwise_append, List.pairwise_map]
      refine ⟨?_, ih restDistinct (inOrder.tail fresh), ?_⟩
      · have inside : node.scalarPaths.Pairwise fun earlier later => ¬Sooner later earlier := by
          cases node with
          | scalar value => exact List.pairwise_singleton _ _
          | mapping inner =>
              exact below inner rfl nodeDistinct (inOrder.of_own? (by rw [own?_entry, if_pos rfl]))
        refine inside.imp fun apart sooner => ?_
        rcases sooner_cons sooner with ahead | ⟨-, sooner⟩
        · rw [KeyOrder.precedes_self] at ahead
          cases ahead
        · exact apart sooner
      · intro earlier before later behind sooner
        obtain ⟨deeper, -, rfl⟩ := List.mem_map.1 before
        obtain ⟨k, deeper', rfl, member⟩ := scalarPaths_under behind
        rcases sooner_cons sooner with ahead | ⟨same, -⟩
        · rw [(List.pairwise_cons.1 ordered).1 k member] at ahead
          cases ahead
        · exact not_mem_keys.2 fresh (same ▸ member)

theorem FirstClash.not_sooner {other : List String} (first : FirstClash defaults override path)
    (distinct : override.Distinct) (inOrder : override.InOrder)
    (clash : Clash defaults override other) : ¬Sooner other path := by
  obtain ⟨-, earlier, later, split, free⟩ := first
  have ordered := scalarPaths_inOrder distinct inOrder
  have there := ((clash_iff distinct).1 clash).1
  rw [split] at ordered there
  rcases List.mem_append.1 there with before | there
  · exact absurd clash (free other before)
  · rcases List.mem_cons.1 there with rfl | behind
    · rintro ⟨common, k, k', deeper, deeper', here, again, ahead⟩
      rw [here] at again
      obtain ⟨rfl, -⟩ := List.cons.inj (List.append_cancel_left again)
      rw [KeyOrder.precedes_self] at ahead
      cases ahead
    · exact (List.pairwise_cons.1 (List.pairwise_append.1 ordered).2.1).1 other behind

/-- **When a merge is refused.**  It is refused exactly when the override has a scalar at
a path where the defaults have a mapping, and the first such path in the depth-first order
of the override is told, its keys strung behind the place of the merge.  Where the keys of
the override are in key order, as those of a text are, no other clash leaves that path by a
key that goes first. -/
theorem refused_at_first_clash (plain : defaults.Plain) (overridePlain : override.Plain)
    (place : String) :
    ((∃ conflict, mergeAt place defaults override = .error conflict) ↔
        ∃ path, (∃ inner, defaults.nodeAt? path = some (.mapping inner)) ∧
          ∃ value, override.nodeAt? path = some (.scalar value)) ∧
      (∀ conflict, mergeAt place defaults override = .error conflict ↔
        ∃ path, FirstClash defaults override path ∧ conflict.path = path.foldl keyPath place) ∧
      (override.InOrder → ∀ path other, FirstClash defaults override path →
        Clash defaults override other → ¬Sooner other path) := by
  refine ⟨exists_refusal_iff plain overridePlain, fun conflict => ?_,
    fun inOrder path other first clash => first.not_sooner overridePlain.distinct inOrder clash⟩
  rw [mergeAt_eq_error_iff plain overridePlain]
  refine exists_congr fun path => and_congr_right fun _ => ?_
  cases conflict
  simp [conflictAt]

/-- Three clashes, of which the one under the index is told. -/
theorem refused_at_index :
    let defaults : FlowConfig :=
      .mapping "l3" (.scalar "proto" (.string "udp") .root)
        (.mapping "" (.mapping "x" .root .root) (.mapping "7" (.mapping "y" .root .root) .root))
    let override : FlowConfig :=
      .mapping "7" (.scalar "y" .null .root)
        (.mapping "" (.scalar "x" (.bool true) .root) (.scalar "l3" .null .root))
    defaults.Plain ∧ override.Plain ∧ override.InOrder ∧
      (∃ conflict, mergeAt "" defaults override = .error conflict ∧ conflict.path = "7.y") ∧
      FirstClash defaults override ["7", "y"] ∧ Clash defaults override ["", "x"] ∧
        ¬Sooner ["", "x"] ["7", "y"] := by
  intro defaults override
  have plain : defaults.Plain := by decide
  have overridePlain : override.Plain := by decide
  have copied : override.clone = override := by decide
  have inOrder : override.InOrder := copied ▸ overridePlain.tidy_clone.inOrder
  have first : FirstClash defaults override ["7", "y"] :=
    ⟨⟨⟨_, rfl⟩, _, rfl⟩, [], _, rfl, List.forall_mem_nil _⟩
  have other : Clash defaults override ["", "x"] := ⟨⟨_, rfl⟩, _, rfl⟩
  obtain ⟨-, refused, ordered⟩ := refused_at_first_clash plain overridePlain ""
  exact ⟨plain, overridePlain, inOrder,
    ⟨⟨"7.y"⟩, (refused _).2 ⟨["7", "y"], first, by decide⟩, rfl⟩, first, other,
    ordered inOrder _ _ first other⟩

end FlowConfig

end ManualTraffic
