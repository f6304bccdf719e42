/-
# ManualTraffic.Proofs.FlowConfig.Merge -- what a merge leaves at each path

A merge writes the entries of the override one after another, and what it writes for
one of them depends on the entry alone and on what stands under its key
(`Node.over`, `mergeInto_entry`).  So under each key of the result stands what the
defaults had, or what was written there once (`own?_mergeInto`), and along a whole
path the result has the shape of the override laid over the shape of the defaults
(`shapeAt?_mergeAt`), and its keys are those of the two, one list written behind the other
(`keysAt?_mergeAt`).
-/
import ManualTraffic.FlowConfig.Merge
import ManualTraffic.Proofs.FlowConfig.Paths

namespace ManualTraffic

set_option autoImplicit false

namespace FlowConfig

variable {config defaults override merged rest inner : FlowConfig} {key k place : String}
  {path : List String} {node written : Node}

/-! ## One entry of an override -/

/-- What is written for a node of an override, at a place where perhaps another node
stands. -/
def Node.over (place : String) : Option Node → Node → Except MergeConflict Node
  | some (.mapping _), .scalar _ => .error ⟨place⟩
  | some (.mapping current), .mapping inner => (mergeAt place current inner).map .mapping
  | _, node => .ok node.clone

theorem mergeInto_entry (onRoot : merged.lowest = .root) (free : key ≠ layerKey) :
    mergeInto merged place (entry key node rest) =
      (node.over (keyPath place key) (merged.own? key)).bind fun written =>
        mergeInto (merged.put key written) place rest := by
  cases node with
  | scalar value =>
      rw [entry, mergeInto, read_of_lowest onRoot free]
      cases merged.own? key with
      | none => cases rootFunctions.contains key <;> rfl
      | some there => cases there <;> rfl
  | mapping inner =>
      rw [entry, mergeInto, read_of_lowest onRoot free]
      cases merged.own? key with
      | none => cases rootFunctions.contains key <;> rfl
      | some there =>
          cases there with
          | scalar value => rfl
          | mapping current =>
              simp only [Node.over, mergeAt]
              cases mergeInto current.clone (keyPath place key) inner <;> rfl

theorem mergeInto_entry_ok (onRoot : merged.lowest = .root) (free : key ≠ layerKey)
    (done : mergeInto merged place (entry key node rest) = .ok config) :
    ∃ written, node.over (keyPath place key) (merged.own? key) = .ok written ∧
      mergeInto (merged.put key written) place rest = .ok config := by
  rw [mergeInto_entry onRoot free] at done
  cases step : node.over (keyPath place key) (merged.own? key) with
  | error conflict =>
      rw [step] at done
      cases done
  | ok written =>
      rw [step] at done
      exact ⟨written, rfl, done⟩

/-- What is written is a copy of the node, unless mapping meets mapping: then it is the
one merged over the other. -/
theorem over_cases {there : Option Node} (step : node.over place there = .ok written) :
    (written = node.clone ∧ ∀ current, there ≠ some (.mapping current)) ∨
      ∃ current inner below, there = some (.mapping current) ∧ node = .mapping inner ∧
        mergeAt place current inner = .ok below ∧ written = .mapping below := by
  unfold Node.over at step
  split at step
  · cases step
  · rename_i current inner
    cases merging : mergeAt place current inner with
    | error conflict =>
        rw [merging] at step
        cases step
    | ok below =>
        rw [merging] at step
        cases step
        exact .inr ⟨current, inner, below, rfl, rfl, merging, rfl⟩
  · rename_i scalarOver mappingOver
    cases step
    refine .inl ⟨rfl, fun current same => ?_⟩
    cases node with
    | scalar value => exact scalarOver current value same rfl
    | mapping inner => exact mappingOver current inner same rfl

/-! ## What a merge keeps -/

/-- What is written for plain nodes is plain, and so a merge keeps a fresh configuration
fresh. -/
theorem Fresh.mergeInto (fresh : merged.Fresh) (plain : override.Plain)
    (done : mergeInto merged place override = .ok config) : config.Fresh := by
  induction override using entryInduction generalizing merged place config with
  | root | bare | layered =>
      cases done
      exact fresh
  | entry key node rest below ih =>
      obtain ⟨free, -, nodePlain, restPlain⟩ := plain_entry.1 plain
      obtain ⟨written, step, done⟩ := mergeInto_entry_ok fresh.onRoot free done
      refine ih (fresh.put free ?_) restPlain done
      obtain ⟨rfl, -⟩ | ⟨current, inner, result, there, rfl, merging, rfl⟩ := over_cases step
      · exact nodePlain.clone
      · have currentPlain := Node.plain_mapping.1 (fresh.toPlain.of_own? there)
        have resultFresh := below inner rfl currentPlain.clone (Node.plain_mapping.1 nodePlain)
          merging
        exact Node.plain_mapping.2 resultFresh.toPlain

theorem Plain.mergeAt (plain : defaults.Plain) (overridePlain : override.Plain)
    (done : mergeAt place defaults override = .ok merged) : merged.Fresh :=
  plain.clone.mergeInto overridePlain done

theorem plain_of_over {there : Option Node} (nodePlain : node.Plain)
    (therePlain : ∀ lower, there = some lower → lower.Plain)
    (step : node.over place there = .ok written) : written.Plain := by
  obtain ⟨rfl, -⟩ | ⟨current, inner, below, rfl, rfl, merging, rfl⟩ := over_cases step
  · exact nodePlain.clone
  · have currentPlain := Node.plain_mapping.1 (therePlain _ rfl)
    exact Node.plain_mapping.2
      (currentPlain.mergeAt (Node.plain_mapping.1 nodePlain) merging).toPlain

/-! ## Key by key -/

/-- A merge stays on the layer that it starts from. -/
theorem lowest_mergeInto (onRoot : merged.lowest = .root) (free : override.own? layerKey = none)
    (done : mergeInto merged place override = .ok config) : config.lowest = .root := by
  induction override using entryInduction generalizing merged with
  | root | bare | layered =>
      cases done
      exact onRoot
  | entry key node rest _ ih =>
      obtain ⟨keyFree, restFree⟩ := own?_layerKey_entry.1 free
      obtain ⟨written, -, done⟩ := mergeInto_entry_ok onRoot keyFree done
      exact ih ((lowest_put keyFree).trans onRoot) restFree done

/-- A key of the override holds what was written for its node, every other key what it
held. -/
theorem own?_mergeInto (onRoot : merged.lowest = .root) (distinct : override.Distinct)
    (free : override.own? layerKey = none) (done : mergeInto merged place override = .ok config)
    (k : String) :
    match override.own? k with
    | none => config.own? k = merged.own? k
    | some node => ∃ written, node.over (keyPath place k) (merged.own? k) = .ok written ∧
        config.own? k = some written := by
  induction override using entryInduction generalizing merged with
  | root | bare | layered =>
      cases done
      rfl
  | entry key node rest _ ih =>
      obtain ⟨absent, -, restDistinct⟩ := distinct_entry.1 distinct
      obtain ⟨keyFree, restFree⟩ := own?_layerKey_entry.1 free
      obtain ⟨written, step, done⟩ := mergeInto_entry_ok onRoot keyFree done
      have later := ih ((lowest_put keyFree).trans onRoot) restDistinct restFree done
      rw [own?_put keyFree] at later
      rw [own?_entry]
      by_cases hit : key = k
      · subst hit
        rw [absent, if_pos rfl] at later
        rw [if_pos rfl]
        exact ⟨written, step, later⟩
      · rw [if_neg hit] at later
        rw [if_neg hit]
        exact later

theorem keys_mergeInto (onRoot : merged.lowest = .root) (layerFree : override.LayerFree)
    (done : mergeInto merged place override = .ok config) :
    config.keys = KeyOrder.addAll merged.keys override.keys := by
  induction override using entryInduction generalizing merged with
  | root | bare | layered =>
      cases done
      rfl
  | entry key node rest _ ih =>
      obtain ⟨free, -, restFree⟩ := layerFree_entry.1 layerFree
      obtain ⟨written, -, done⟩ := mergeInto_entry_ok onRoot free done
      rw [ih ((lowest_put free).trans onRoot) restFree done, keys_put free, keys_entry,
        KeyOrder.addAll_cons]

theorem keys_mergeAt (plain : defaults.Plain) (layerFree : override.LayerFree)
    (done : mergeAt place defaults override = .ok merged) :
    merged.keys = KeyOrder.addAll (KeyOrder.addAll [] defaults.keys) override.keys := by
  rw [keys_mergeInto plain.clone.onRoot layerFree done, keys_clone plain.layerFree]

/-! ## Path by path -/

theorem mergeAt_clone (plain : defaults.Plain) :
    mergeAt place defaults.clone override = mergeAt place defaults override := by
  rw [mergeAt, mergeAt, plain.tidy_clone.clone_eq]

theorem over_clone {there : Option Node} (plain : ∀ lower, there = some lower → lower.Plain) :
    node.over place (there.map Node.clone) = node.over place there := by
  rcases there with _ | ⟨lower⟩ | ⟨current⟩
  · rfl
  · cases node <;> rfl
  · cases node with
    | scalar value => rfl
    | mapping inner =>
        have currentPlain := Node.plain_mapping.1 (plain _ rfl)
        simp only [Option.map_some, Node.clone, Node.over, mergeAt_clone currentPlain]

/-- What a merge leaves where the override and the defaults have nodes or none: a copy of
what was there, or what was written for the node of the override. -/
inductive Laid (place : String) : Option Node → Option Node → Option Node → Prop
  | kept (lower : Option Node) : Laid place none lower (lower.map Node.clone)
  | written {upper written : Node} {lower : Option Node}
      (step : upper.over place lower = .ok written) : Laid place (some upper) lower (some written)

theorem own?_mergeAt (plain : defaults.Plain) (distinct : override.Distinct)
    (free : override.own? layerKey = none) (done : mergeAt place defaults override = .ok merged)
    (k : String) : Laid (keyPath place k) (override.own? k) (defaults.own? k) (merged.own? k) := by
  have under := own?_mergeInto plain.clone.onRoot distinct free done k
  rw [own?_clone plain] at under
  cases found : override.own? k with
  | none =>
      rw [found] at under
      rw [under]
      exact .kept _
  | some node =>
      rw [found] at under
      obtain ⟨written, step, result⟩ := under
      rw [result]
      rw [over_clone fun lower there => plain.of_own? there] at step
      exact .written step

/-- Below what was written for a node over nothing or over a scalar stand copies of what
the node has there. -/
theorem laid_of_unmapped {upper : Node} {lower : Option Node} (plain : upper.Plain)
    (unmapped : ∀ current, lower ≠ some (.mapping current)) :
    Laid place (upper.nodeAt? path) (lower.bind fun node => node.nodeAt? path)
      (upper.clone.nodeAt? path) := by
  rw [Node.nodeAt?_clone plain]
  cases found : upper.nodeAt? path with
  | none =>
      have nothing : (lower.bind fun node => node.nodeAt? path) = none := by
        rcases lower with _ | ⟨value⟩ | ⟨current⟩
        · rfl
        · cases path with
          | nil =>
              rw [Node.nodeAt?_nil] at found
              cases found
          | cons => rfl
        · exact absurd rfl (unmapped current)
      rw [nothing]
      exact .kept none
  | some node =>
      refine .written ?_
      rcases lower with _ | ⟨value⟩ | ⟨current⟩
      · cases node <;> rfl
      · cases path <;> cases node <;> rfl
      · exact absurd rfl (unmapped current)

/-- What was laid at a node goes on below it. -/
theorem Laid.along {upper lower result : Option Node} (laid : Laid place upper lower result)
    (upperPlain : ∀ node, upper = some node → node.Plain)
    (lowerPlain : ∀ node, lower = some node → node.Plain) {deeper : String}
    (within : ∀ current inner below : FlowConfig, current.Plain → inner.Plain →
      mergeAt place current inner = .ok below →
        Laid deeper (inner.nodeAt? path) (current.nodeAt? path) (below.nodeAt? path)) :
    Laid deeper (upper.bind fun node => node.nodeAt? path)
      (lower.bind fun node => node.nodeAt? path) (result.bind fun node => node.nodeAt? path) := by
  cases laid with
  | kept =>
      have copied : ((lower.map Node.clone).bind fun node => node.nodeAt? path) =
          (lower.bind fun node => node.nodeAt? path).map Node.clone := by
        cases lower with
        | none => rfl
        | some node => exact Node.nodeAt?_clone (lowerPlain node rfl)
      rw [copied]
      exact .kept _
  | written step =>
      obtain ⟨rfl, unmapped⟩ | ⟨current, inner, below, rfl, rfl, merging, rfl⟩ := over_cases step
      · exact laid_of_unmapped (upperPlain _ rfl) unmapped
      · exact within current inner below (Node.plain_mapping.1 (lowerPlain _ rfl))
          (Node.plain_mapping.1 (upperPlain _ rfl)) merging

/-- **What stands at a path of a merge** is a copy of what the defaults have there, or it
was written for the node that the override has there. -/
theorem nodeAt?_mergeAt (plain : defaults.Plain) (overridePlain : override.Plain)
    (done : mergeAt place defaults override = .ok merged) (path : List String) :
    Laid (path.foldl keyPath place) (override.nodeAt? path) (defaults.nodeAt? path)
      (merged.nodeAt? path) := by
  induction path generalizing place defaults override merged with
  | nil =>
      simp only [nodeAt?_nil]
      exact .written (by simp only [List.foldl_nil, Node.over, done]; rfl)
  | cons k path ih =>
      rw [nodeAt?_cons, nodeAt?_cons, nodeAt?_cons, List.foldl_cons]
      have laid := own?_mergeAt plain overridePlain.distinct
        (own?_layerKey overridePlain.layerFree) done k
      exact laid.along (fun _ => overridePlain.of_own?) (fun _ => plain.of_own?)
        fun _ _ _ currentPlain innerPlain => ih currentPlain innerPlain

/-- A mapping that was laid is a copy of one, or two were merged. -/
theorem Laid.mapping_cases {upper lower : Option Node}
    (laid : Laid place upper lower (some (.mapping inner))) :
    (∃ base, (upper = some (.mapping base) ∨ upper = none ∧ lower = some (.mapping base)) ∧
        inner = base.clone) ∨
      ∃ current base, upper = some (.mapping base) ∧ lower = some (.mapping current) ∧
        mergeAt place current base = .ok inner := by
  have of_clone : ∀ node : Node, node.clone = .mapping inner →
      ∃ base, node = .mapping base ∧ inner = base.clone := by
    intro node copied
    cases node with
    | scalar value => cases copied
    | mapping base =>
        cases copied
        exact ⟨base, rfl, rfl⟩
  generalize there : some (Node.mapping inner) = result at laid
  cases laid with
  | kept =>
      obtain ⟨node, rfl, copied⟩ := Option.map_eq_some_iff.1 there.symm
      obtain ⟨base, rfl, same⟩ := of_clone node copied
      exact .inl ⟨base, .inr ⟨rfl, rfl⟩, same⟩
  | @written upper _ _ step =>
      cases there
      obtain ⟨copied, -⟩ | ⟨current, base, below, rfl, rfl, merging, same⟩ := over_cases step
      · obtain ⟨base, rfl, same⟩ := of_clone upper copied.symm
        exact .inl ⟨base, .inl rfl, same⟩
      · cases same
        exact .inr ⟨current, base, rfl, rfl, merging⟩

/-- What is laid as a mapping lies on the common root. -/
theorem Laid.lowest {upper lower : Option Node}
    (laid : Laid place upper lower (some (.mapping inner)))
    (upperFree : ∀ base, upper = some (.mapping base) → base.own? layerKey = none)
    (lowerPlain : ∀ node, lower = some node → node.Plain) : inner.lowest = .root := by
  rcases laid.mapping_cases with ⟨base, from_either, rfl⟩ | ⟨current, base, above, below, merging⟩
  · have free : base.own? layerKey = none := by
      rcases from_either with above | ⟨-, below⟩
      · exact upperFree base above
      · exact own?_layerKey (Node.plain_mapping.1 (lowerPlain _ below)).layerFree
    exact lowest_cloneInto free
  · have currentPlain := Node.plain_mapping.1 (lowerPlain _ below)
    exact lowest_mergeInto currentPlain.clone.onRoot (upperFree base above) merging

/-- What is laid as a mapping has its keys in order. -/
theorem Laid.ordered {upper lower : Option Node}
    (laid : Laid place upper lower (some (.mapping inner)))
    (upperPlain : ∀ node, upper = some node → node.Plain)
    (lowerPlain : ∀ node, lower = some node → node.Plain) : KeyOrder.Ordered inner.keys := by
  rcases laid.mapping_cases with ⟨base, from_either, rfl⟩ | ⟨current, base, above, below, merging⟩
  · have basePlain : base.Plain := by
      rcases from_either with above | ⟨-, below⟩
      · exact Node.plain_mapping.1 (upperPlain _ above)
      · exact Node.plain_mapping.1 (lowerPlain _ below)
    exact basePlain.tidy_clone.inOrder.keys
  · have currentPlain := Node.plain_mapping.1 (lowerPlain _ below)
    have basePlain := Node.plain_mapping.1 (upperPlain _ above)
    rw [keys_mergeAt currentPlain basePlain.layerFree merging]
    exact KeyOrder.ordered_addAll (KeyOrder.ordered_addAll .nil)

/-- A merge of plain configurations is tidy. -/
theorem tidy_mergeAt (plain : defaults.Plain) (overridePlain : override.Plain)
    (done : mergeAt place defaults override = .ok merged) : merged.Tidy := by
  refine ⟨(plain.mergeAt overridePlain done).toPlain, fun path deeper found => ?_⟩
  have laid := nodeAt?_mergeAt plain overridePlain done path
  rw [found] at laid
  refine ⟨laid.lowest (fun base there => ?_) (fun _ => plain.of_nodeAt?),
    laid.ordered (fun _ => overridePlain.of_nodeAt?) (fun _ => plain.of_nodeAt?)⟩
  exact own?_layerKey (Node.plain_mapping.1 (overridePlain.of_nodeAt? there)).layerFree

/-! ## Shapes -/

/-- One shape laid over another: a mapping on either side stays, and else the upper one
counts. -/
def Shape.over : Option Shape → Option Shape → Option Shape
  | none, lower => lower
  | some .mapping, _ => some .mapping
  | some (.scalar _), some .mapping => some .mapping
  | some (.scalar value), _ => some (.scalar value)

theorem Shape.over_none (upper : Option Shape) : Shape.over upper none = upper := by
  rcases upper with _ | ⟨value⟩ | _ <;> rfl

theorem Shape.over_eq_mapping_iff {upper lower : Option Shape} :
    Shape.over upper lower = some .mapping ↔ upper = some .mapping ∨ lower = some .mapping := by
  rcases upper with _ | ⟨value⟩ | _ <;> rcases lower with _ | ⟨below⟩ | _ <;> simp [Shape.over]

theorem Shape.over_eq_none_iff {upper lower : Option Shape} :
    Shape.over upper lower = none ↔ upper = none ∧ lower = none := by
  rcases upper with _ | ⟨value⟩ | _ <;> rcases lower with _ | ⟨below⟩ | _ <;> simp [Shape.over]

theorem Shape.over_eq_scalar_iff {upper lower : Option Shape} {value : Scalar} :
    Shape.over upper lower = some (.scalar value) ↔
      upper = some (.scalar value) ∧ lower ≠ some .mapping ∨
        upper = none ∧ lower = some (.scalar value) := by
  rcases upper with _ | ⟨above⟩ | _ <;> rcases lower with _ | ⟨below⟩ | _ <;> simp [Shape.over]

theorem Laid.shape {upper lower result : Option Node} (laid : Laid place upper lower result) :
    result.map Node.shape = Shape.over (upper.map Node.shape) (lower.map Node.shape) := by
  cases laid with
  | kept =>
      cases lower with
      | none => rfl
      | some node => exact congrArg some Node.shape_clone
  | @written upper _ _ step =>
      obtain ⟨rfl, unmapped⟩ | ⟨current, inner, below, rfl, rfl, -, rfl⟩ := over_cases step
      · rw [Option.map_some, Node.shape_clone]
        rcases lower with _ | ⟨value⟩ | ⟨current⟩
        · exact (Shape.over_none _).symm
        · cases upper <;> rfl
        · exact absurd rfl (unmapped current)
      · rfl

/-- **A merge lays shape over shape**, at every path. -/
theorem shapeAt?_mergeAt (plain : defaults.Plain) (overridePlain : override.Plain)
    (done : mergeAt place defaults override = .ok merged) :
    merged.shapeAt? path = Shape.over (override.shapeAt? path) (defaults.shapeAt? path) :=
  (nodeAt?_mergeAt plain overridePlain done path).shape

/-! ## Keys -/

/-- The keys of a mapping laid over those of another, where there are mappings. -/
def overKeys : Option (List String) → Option (List String) → Option (List String)
  | none, lower => lower.map (KeyOrder.addAll [])
  | some upper, lower => some (KeyOrder.addAll (KeyOrder.addAll [] (lower.getD [])) upper)

theorem Laid.keys {upper lower result : Option Node} (laid : Laid place upper lower result)
    (upperPlain : ∀ node, upper = some node → node.Plain)
    (lowerPlain : ∀ node, lower = some node → node.Plain) :
    result.bind Node.keys? = overKeys (upper.bind Node.keys?) (lower.bind Node.keys?) := by
  cases laid with
  | kept =>
      cases lower with
      | none => rfl
      | some node => exact Node.keys?_clone (lowerPlain node rfl)
  | @written upper _ _ step =>
      obtain ⟨rfl, unmapped⟩ | ⟨current, inner, below, rfl, rfl, merging, rfl⟩ := over_cases step
      · have alone : lower.bind Node.keys? = none := by
          rcases lower with _ | ⟨value⟩ | ⟨current⟩
          · rfl
          · rfl
          · exact absurd rfl (unmapped current)
        rw [alone, Option.bind_some, Option.bind_some, Node.keys?_clone (upperPlain _ rfl)]
        cases upper <;> rfl
      · have currentPlain := Node.plain_mapping.1 (lowerPlain _ rfl)
        have innerPlain := Node.plain_mapping.1 (upperPlain _ rfl)
        exact congrArg some (keys_mergeAt currentPlain innerPlain.layerFree merging)

/-- A merge lays keys over keys, at every path. -/
theorem keysAt?_mergeAt (plain : defaults.Plain) (overridePlain : override.Plain)
    (done : mergeAt place defaults override = .ok merged) :
    merged.keysAt? path = overKeys (override.keysAt? path) (defaults.keysAt? path) :=
  (nodeAt?_mergeAt plain overridePlain done path).keys
    (fun _ => overridePlain.of_nodeAt?) (fun _ => plain.of_nodeAt?)

end FlowConfig

end ManualTraffic
