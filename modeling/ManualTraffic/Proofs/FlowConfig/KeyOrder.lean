/-
# ManualTraffic.Proofs.FlowConfig.KeyOrder -- where a merge leaves the keys

At each path the keys of a merge are those of the two sides, one list written behind the other
(`keysAt?_mergeAt`).  Where both have a mapping, that gives the indices of both in ascending
order, then the names of the defaults, then the names that the override adds
(`KeyOrder.addAll_addAll`); where one of them has none, it gives the keys of the other
(`keysAt?_merge_alone`).  No key of the defaults moves on the way.
-/
import ManualTraffic.Proofs.FlowConfig.Merge
import ManualTraffic.Proofs.FlowConfig.OwnEntries
import ManualTraffic.Proofs.FlowConfig.Parsed

namespace ManualTraffic

set_option autoImplicit false

namespace FlowConfig

variable {defaults override merged : FlowConfig} {path : List String}
  {lower upper keys : List String}

section

variable (plain : defaults.Plain) (overridePlain : override.Plain)
  (done : defaults.merge override = .ok merged)

include plain overridePlain done

/-- Where both sides have a mapping, its keys are the indices of both, the names of the defaults
and the new names of the override. -/
theorem keysAt?_merge_both (here : defaults.keysAt? path = some lower)
    (there : override.keysAt? path = some upper) :
    ∃ numbers : List Nat, numbers.Pairwise (· < ·) ∧
      (∀ n, n ∈ numbers ↔
        n ≤ KeyOrder.lastIndex ∧ (toString n ∈ lower ∨ toString n ∈ upper)) ∧
      merged.keysAt? path = some (numbers.map toString ++ KeyOrder.named lower ++
        (KeyOrder.named upper).filter (· ∉ lower)) := by
  let keys := KeyOrder.addAll (KeyOrder.addAll [] lower) upper
  have ordered : KeyOrder.Ordered keys := KeyOrder.ordered_addAll (KeyOrder.ordered_addAll .nil)
  have nodup : keys.Nodup := KeyOrder.nodup_addAll (KeyOrder.nodup_addAll .nil)
  refine ⟨KeyOrder.indices keys, KeyOrder.ascending_indices ordered nodup, fun n => ?_, ?_⟩
  · simp [KeyOrder.mem_indices, keys, KeyOrder.mem_addAll]
  · rw [keysAt?_mergeAt plain overridePlain done, here, there]
    exact congrArg some (KeyOrder.addAll_addAll (nodup_keysAt? plain _ here)
      (nodup_keysAt? overridePlain _ there))

/-- Where one side has no mapping, the keys are those of the other side. -/
theorem keysAt?_merge_alone (ordered : defaults.KeyOrdered) (overrideOrdered : override.KeyOrdered)
    (alone : defaults.keysAt? path = none ∨ override.keysAt? path = none) :
    merged.keysAt? path = (defaults.keysAt? path).or (override.keysAt? path) := by
  have copied {config : FlowConfig} {keys : List String} (plain : config.Plain)
      (ordered : config.KeyOrdered) (found : config.keysAt? path = some keys) :
      KeyOrder.addAll [] keys = keys :=
    KeyOrder.addAll_of_ordered (ordered path keys found) (nodup_keysAt? plain keys found)
  rw [keysAt?_mergeAt plain overridePlain done]
  cases here : defaults.keysAt? path with
  | none =>
      cases there : override.keysAt? path with
      | none => rfl
      | some upper => exact congrArg some (copied overridePlain overrideOrdered there)
  | some lower =>
      cases there : override.keysAt? path with
      | none => exact congrArg some (copied plain ordered here)
      | some upper => simp [here, there] at alone

/-- The keys of the defaults stay in their order, and where they are if no key is new. -/
theorem keysAt?_merge_stay (ordered : defaults.KeyOrdered)
    (here : defaults.keysAt? path = some lower) :
    ∃ keys, merged.keysAt? path = some keys ∧ lower.Sublist keys ∧
      ((∀ upper, override.keysAt? path = some upper → ∀ key ∈ upper, key ∈ lower) →
        keys = lower) := by
  have same : KeyOrder.addAll [] lower = lower :=
    KeyOrder.addAll_of_ordered (ordered path lower here) (nodup_keysAt? plain lower here)
  rw [keysAt?_mergeAt plain overridePlain done, here]
  cases override.keysAt? path with
  | none =>
      refine ⟨lower, congrArg some same, .refl _, fun _ => rfl⟩
  | some upper =>
      refine ⟨KeyOrder.addAll lower upper, ?_, KeyOrder.sublist_addAll, fun old => ?_⟩
      · rw [overKeys, Option.getD_some, same]
      · exact KeyOrder.addAll_of_subset (old upper rfl)

theorem keyOrdered_merge : merged.KeyOrdered :=
  (tidy_mergeAt plain overridePlain done).inOrder.keyOrdered

end

/-- **The order of keys in a merge** of configurations with keys in key order, as they are when
they are read (`inOrder_of_parse`) or merged.  Where both sides have a mapping, the merge has the
index keys of both in ascending order, then the other keys of the defaults in their order, then
those that the override adds, in the order of the override; each key stands once.  Every other
mapping has its keys as the side has them that it comes from.  The keys of the defaults stay in
their order, whatever is written under them, and stay where they are when no key is new.  A copy
is written like its original. -/
theorem merge_key_order (plain : defaults.Plain) (overridePlain : override.Plain)
    (ordered : defaults.KeyOrdered) (overrideOrdered : override.KeyOrdered)
    (done : defaults.merge override = .ok merged) :
    (∀ path lower upper, defaults.keysAt? path = some lower → override.keysAt? path = some upper →
      ∃ (keys : List String) (numbers : List Nat), merged.keysAt? path = some keys ∧
        keys = numbers.map toString ++ lower.filter KeyOrder.isName ++
          (upper.filter KeyOrder.isName).filter (· ∉ lower) ∧
        keys.Nodup ∧ numbers.Pairwise (· < ·) ∧
        ∀ n, n ∈ numbers ↔ n ≤ 4294967294 ∧ (toString n ∈ lower ∨ toString n ∈ upper)) ∧
      (∀ key, KeyOrder.isName key = true ↔ ∀ n ≤ 4294967294, key ≠ toString n) ∧
      (∀ path, defaults.keysAt? path = none ∨ override.keysAt? path = none →
        merged.keysAt? path = (defaults.keysAt? path).or (override.keysAt? path)) ∧
      (∀ path lower, defaults.keysAt? path = some lower →
        ∃ keys, merged.keysAt? path = some keys ∧ lower.Sublist keys ∧
          ((∀ upper, override.keysAt? path = some upper → ∀ key ∈ upper, key ∈ lower) →
            keys = lower)) ∧
      merged.KeyOrdered ∧ defaults.clone.toJson = defaults.toJson ∧
      override.clone.toJson = override.toJson ∧ merged.clone.toJson = merged.toJson := by
  have mergedPlain : merged.Plain := (tidy_mergeAt plain overridePlain done).toPlain
  have mergedOrdered : merged.KeyOrdered := keyOrdered_merge plain overridePlain done
  refine ⟨?both, fun key => KeyOrder.isName_iff, ?alone, ?stay, mergedOrdered,
    toJson_clone plain ordered, toJson_clone overridePlain overrideOrdered,
    toJson_clone mergedPlain mergedOrdered⟩
  case both =>
    intro path lower upper here there
    obtain ⟨numbers, ascending, members, keys⟩ :=
      keysAt?_merge_both plain overridePlain done here there
    exact ⟨_, numbers, keys, rfl, nodup_keysAt? mergedPlain _ keys, ascending, members⟩
  case alone =>
    intro path alone
    exact keysAt?_merge_alone plain overridePlain done ordered overrideOrdered alone
  case stay =>
    intro path lower here
    exact keysAt?_merge_stay plain overridePlain done ordered here

/-- Defaults and an override as they are read from texts: a mapping takes the place of a scalar,
and both sides have index keys. -/
theorem merge_key_order_mixed :
    let first := "\x7b\"b\":null,\"10\":null,\"a\":\x7b\"q\":null,\"p\":null\x7d,\"9\":null\x7d"
    let second :=
      "\x7b\"01\":null,\"a\":\x7b\"p\":\"\",\"3\":\"\"\x7d,\"b\":\x7b\"z\":\"\"\x7d,\"7\":null\x7d"
    ∃ defaults override merged : FlowConfig,
      (Json.parse? first.toList).bind ofJson? = some defaults ∧
      (Json.parse? second.toList).bind ofJson? = some override ∧
      defaults.merge override = .ok merged ∧
      merged.keys = ["7", "9", "10", "b", "a", "01"] ∧
      merged.keysAt? ["a"] = some ["3", "q", "p"] ∧ merged.keysAt? ["b"] = some ["z"] ∧
      defaults.keys.Sublist merged.keys ∧ merged.clone.toJson = merged.toJson := by
  intro first second
  let blank : Scalar := .string ""
  let defaults : FlowConfig := .scalar "9" .null (.scalar "10" .null (.scalar "b" .null
    (.mapping "a" (.scalar "q" .null (.scalar "p" .null .root)) .root)))
  let override : FlowConfig := .scalar "7" .null (.scalar "01" .null
    (.mapping "a" (.scalar "3" blank (.scalar "p" blank .root))
      (.mapping "b" (.scalar "z" blank .root) .root)))
  let merged : FlowConfig := .scalar "7" .null (.scalar "9" .null (.scalar "10" .null
    (.mapping "b" (.scalar "z" blank .root)
      (.mapping "a" (.scalar "3" blank (.scalar "q" .null (.scalar "p" blank .root)))
        (.scalar "01" .null .root)))))
  have reads : (Json.parse? first.toList).bind ofJson? = some defaults := by decide +kernel
  have reads' : (Json.parse? second.toList).bind ofJson? = some override := by decide +kernel
  obtain ⟨value, parsed, made⟩ := Option.bind_eq_some_iff.1 reads
  obtain ⟨value', parsed', made'⟩ := Option.bind_eq_some_iff.1 reads'
  have done : defaults.merge override = .ok merged := by rfl
  have plain : defaults.Plain := by decide
  have overridePlain : override.Plain := by decide
  obtain ⟨-, -, alone, stay, -, -, -, written⟩ := merge_key_order plain overridePlain
    (inOrder_of_parse parsed made).keyOrdered (inOrder_of_parse parsed' made').keyOrdered done
  obtain ⟨keys, found, kept, -⟩ := stay [] defaults.keys rfl
  have same : merged.keys = keys := Option.some.inj found
  exact ⟨defaults, override, merged, reads, reads', done, rfl, rfl, alone ["b"] (.inl rfl),
    same ▸ kept, written⟩

end FlowConfig

end ManualTraffic
