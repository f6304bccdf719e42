/-
# ManualTraffic.Proofs.FlowConfig.Grouping -- merging one by one, and merging overrides first

Two overrides can be laid on defaults one by one, or the second can be laid on the first
and both on the defaults.  Shapes and keys come out the same either way
(`Shape.over_assoc`, `overKeys_assoc`), so the two ways differ only in what they refuse.
One by one is the stricter way: merging the overrides first lets a mapping cover a scalar
that would have met a mapping of the defaults, and there is no other difference
(`merge_grouping`).
-/
import ManualTraffic.Proofs.FlowConfig.Clash

namespace ManualTraffic

set_option autoImplicit false

namespace FlowConfig

variable {lower middle upper lowerMiddle middleUpper all : FlowConfig} {path : List String}

/-! ## Three layers at one path -/

theorem Shape.over_assoc (upper middle lower : Option Shape) :
    Shape.over upper (Shape.over middle lower) = Shape.over (Shape.over upper middle) lower := by
  rcases upper with _ | ⟨value⟩ | _ <;> rcases middle with _ | ⟨value⟩ | _ <;>
    rcases lower with _ | ⟨value⟩ | _ <;> rfl

/-- What clashes with neither layer when laid on them one by one does not clash when the
upper two are laid on each other first. -/
theorem Shape.not_clash_gathered {upper middle lower : Option Shape}
    (first : ¬Shape.Clash lower middle) (second : ¬Shape.Clash (Shape.over middle lower) upper) :
    ¬Shape.Clash middle upper ∧ ¬Shape.Clash lower (Shape.over upper middle) := by
  rcases upper with _ | ⟨value⟩ | _ <;> rcases middle with _ | ⟨value'⟩ | _ <;>
    rcases lower with _ | ⟨value''⟩ | _ <;> simp_all [Shape.Clash, Shape.over]

/-- Laid on each other first, the upper two hide one clash: that of a scalar under a
mapping. -/
theorem Shape.clash_one_by_one_iff {upper middle lower : Option Shape}
    (gathered : ¬Shape.Clash middle upper) (laid : ¬Shape.Clash lower (Shape.over upper middle)) :
    Shape.Clash lower middle ∨ Shape.Clash (Shape.over middle lower) upper ↔
      lower = some .mapping ∧ (∃ value, middle = some (.scalar value)) ∧ upper = some .mapping := by
  rcases upper with _ | ⟨value⟩ | _ <;> rcases middle with _ | ⟨value'⟩ | _ <;>
    rcases lower with _ | ⟨value''⟩ | _ <;> simp_all [Shape.Clash, Shape.over]

theorem addAll_clean {keys written : List String} (ordered : KeyOrder.Ordered keys)
    (nodup : keys.Nodup) (writtenNodup : written.Nodup) :
    KeyOrder.addAll keys (KeyOrder.addAll [] written) = KeyOrder.addAll keys written :=
  KeyOrder.addAll_gathered ordered nodup writtenNodup .nil

theorem overKeys_assoc {upper middle lower : Option (List String)}
    (upperNodup : ∀ keys, upper = some keys → keys.Nodup)
    (middleNodup : ∀ keys, middle = some keys → keys.Nodup) :
    overKeys upper (overKeys middle lower) = overKeys (overKeys upper middle) lower := by
  have ordered : ∀ {written : List String}, KeyOrder.Ordered (KeyOrder.addAll [] written) :=
    KeyOrder.ordered_addAll .nil
  have nodup : ∀ {written : List String}, (KeyOrder.addAll [] written).Nodup :=
    KeyOrder.nodup_addAll .nil
  have below : (lower.map (KeyOrder.addAll [])).getD [] = KeyOrder.addAll [] (lower.getD []) := by
    cases lower <;> rfl
  rcases upper with _ | upper <;> rcases middle with _ | middle
  · cases lower with
    | none => rfl
    | some keys => exact congrArg some (KeyOrder.addAll_of_ordered ordered nodup)
  · refine congrArg some ?_
    rw [KeyOrder.addAll_of_ordered (KeyOrder.ordered_addAll ordered) (KeyOrder.nodup_addAll nodup)]
    exact (addAll_clean ordered nodup (middleNodup _ rfl)).symm
  · refine congrArg some ?_
    rw [overKeys, below, KeyOrder.addAll_of_ordered ordered nodup]
    exact (addAll_clean ordered nodup (upperNodup _ rfl)).symm
  · refine congrArg some ?_
    rw [overKeys, Option.getD_some,
      KeyOrder.addAll_of_ordered (KeyOrder.ordered_addAll ordered) (KeyOrder.nodup_addAll nodup)]
    exact (KeyOrder.addAll_gathered ordered nodup (middleNodup _ rfl) (upperNodup _ rfl)).symm

/-! ## The two ways -/

section

variable (lowerPlain : lower.Plain) (middlePlain : middle.Plain) (upperPlain : upper.Plain)

include lowerPlain middlePlain upperPlain

/-- Where neither way is refused, they come out the same. -/
theorem merge_eq_merge {other : FlowConfig} (first : lower.merge middle = .ok lowerMiddle)
    (second : lowerMiddle.merge upper = .ok all) (gathered : middle.merge upper = .ok middleUpper)
    (laid : lower.merge middleUpper = .ok other) : all = other := by
  have lowerMiddlePlain := (tidy_mergeAt lowerPlain middlePlain first).toPlain
  have middleUpperPlain := (tidy_mergeAt middlePlain upperPlain gathered).toPlain
  refine (tidy_mergeAt lowerMiddlePlain upperPlain second).eq_of_paths
    (tidy_mergeAt lowerPlain middleUpperPlain laid) (fun path => ?_) (fun path => ?_)
  · rw [shapeAt?_mergeAt lowerMiddlePlain upperPlain second,
      shapeAt?_mergeAt lowerPlain middlePlain first,
      shapeAt?_mergeAt lowerPlain middleUpperPlain laid,
      shapeAt?_mergeAt middlePlain upperPlain gathered, Shape.over_assoc]
  · rw [keysAt?_mergeAt lowerMiddlePlain upperPlain second,
      keysAt?_mergeAt lowerPlain middlePlain first,
      keysAt?_mergeAt lowerPlain middleUpperPlain laid,
      keysAt?_mergeAt middlePlain upperPlain gathered,
      overKeys_assoc (nodup_keysAt? upperPlain) (nodup_keysAt? middlePlain)]

/-- Where one by one is not refused, neither is the other way. -/
theorem merges_of_one_by_one (first : lower.merge middle = .ok lowerMiddle)
    (second : lowerMiddle.merge upper = .ok all) :
    ∃ middleUpper other, middle.merge upper = .ok middleUpper ∧
      lower.merge middleUpper = .ok other := by
  have lowerMiddlePlain := (tidy_mergeAt lowerPlain middlePlain first).toPlain
  have apart : ∀ path, ¬Shape.Clash (middle.shapeAt? path) (upper.shapeAt? path) ∧
      ¬Shape.Clash (lower.shapeAt? path)
        (Shape.over (upper.shapeAt? path) (middle.shapeAt? path)) := by
    intro path
    have firstApart := apart_of_merge lowerPlain middlePlain first path
    have secondApart := apart_of_merge lowerMiddlePlain upperPlain second path
    rw [shapeAt?_mergeAt lowerPlain middlePlain first] at secondApart
    exact Shape.not_clash_gathered firstApart secondApart
  obtain ⟨middleUpper, gathered⟩ : ∃ middleUpper, middle.merge upper = .ok middleUpper :=
    (exists_merge_iff middlePlain upperPlain).2 fun path => (apart path).1
  have middleUpperPlain := (tidy_mergeAt middlePlain upperPlain gathered).toPlain
  obtain ⟨other, laid⟩ : ∃ other, lower.merge middleUpper = .ok other := by
    refine (exists_merge_iff lowerPlain middleUpperPlain).2 fun path => ?_
    rw [shapeAt?_mergeAt middlePlain upperPlain gathered]
    exact (apart path).2
  exact ⟨middleUpper, other, gathered, laid⟩

/-- One by one, the overrides are refused where the first one clashes with the defaults or
the second one with both. -/
theorem refused_one_by_one_iff :
    (∃ conflict, ((lower.merge middle).bind fun both => both.merge upper) = .error conflict) ↔
      ∃ path, Shape.Clash (lower.shapeAt? path) (middle.shapeAt? path) ∨
        Shape.Clash (Shape.over (middle.shapeAt? path) (lower.shapeAt? path))
          (upper.shapeAt? path) := by
  have firstIff : (∃ conflict, lower.merge middle = .error conflict) ↔ _ :=
    exists_refusal_iff lowerPlain middlePlain
  simp only [clash_iff_shapes] at firstIff
  cases first : lower.merge middle with
  | error conflict =>
      obtain ⟨path, clash⟩ := firstIff.1 ⟨conflict, first⟩
      exact ⟨fun _ => ⟨path, .inl clash⟩, fun _ => ⟨conflict, rfl⟩⟩
  | ok both =>
      have bothPlain := (tidy_mergeAt lowerPlain middlePlain first).toPlain
      have apart := apart_of_merge lowerPlain middlePlain first
      have secondIff : (∃ conflict, both.merge upper = .error conflict) ↔ _ :=
        exists_refusal_iff bothPlain upperPlain
      simp only [clash_iff_shapes, shapeAt?_mergeAt lowerPlain middlePlain first] at secondIff
      simpa only [Except.bind, apart, false_or] using secondIff

end

/-- **How far merging is associative.**  Where two overrides can be merged into defaults one
by one, the second can be merged into the first and both into the defaults, and the
result is the same, its keys in the same order at every level.  Where the second way goes
through, the first one is refused exactly if, at some path, the defaults have a mapping,
the first override a scalar and the second a mapping again. -/
theorem merge_grouping (lowerPlain : lower.Plain) (middlePlain : middle.Plain)
    (upperPlain : upper.Plain) :
    (∀ all, ((lower.merge middle).bind fun both => both.merge upper) = .ok all →
      ∃ gathered, middle.merge upper = .ok gathered ∧ lower.merge gathered = .ok all) ∧
    ∀ gathered all, middle.merge upper = .ok gathered → lower.merge gathered = .ok all →
      ((∃ conflict, ((lower.merge middle).bind fun both => both.merge upper) = .error conflict) ↔
        ∃ path, (∃ inner, lower.nodeAt? path = some (.mapping inner)) ∧
          (∃ value, middle.nodeAt? path = some (.scalar value)) ∧
          ∃ inner, upper.nodeAt? path = some (.mapping inner)) := by
  constructor
  · intro all done
    cases first : lower.merge middle with
    | error conflict =>
        rw [first] at done
        cases done
    | ok both =>
        have second : both.merge upper = .ok all := by rwa [first] at done
        obtain ⟨middleUpper, other, gathered, laid⟩ :=
          merges_of_one_by_one lowerPlain middlePlain upperPlain first second
        have same := merge_eq_merge lowerPlain middlePlain upperPlain first second gathered laid
        exact ⟨middleUpper, gathered, same ▸ laid⟩
  · intro middleUpper all gathered laid
    have middleUpperPlain := (tidy_mergeAt middlePlain upperPlain gathered).toPlain
    rw [refused_one_by_one_iff lowerPlain middlePlain upperPlain]
    refine exists_congr fun path => ?_
    have gatheredApart := apart_of_merge middlePlain upperPlain gathered path
    have laidApart := apart_of_merge lowerPlain middleUpperPlain laid path
    rw [shapeAt?_mergeAt middlePlain upperPlain gathered] at laidApart
    rw [Shape.clash_one_by_one_iff gatheredApart laidApart]
    simp only [shapeAt?_eq_mapping_iff, shapeAt?_eq_scalar_iff]

/-- Merged first, the mapping of the second override hides the scalar of the first one; one
by one, that scalar is refused. -/
theorem merge_grouping_hidden :
    let lower : FlowConfig :=
      .mapping "l2" (.scalar "framesize" (.number (.ofNat false 64)) .root) .root
    let middle : FlowConfig := .scalar "l2" .null (.scalar "l3" .null .root)
    let upper : FlowConfig := .mapping "l2" (.scalar "vlan" (.bool true) .root) .root
    ∃ gathered all, middle.merge upper = .ok gathered ∧ lower.merge gathered = .ok all ∧
      all.keys = ["l2", "l3"] ∧
      ∃ conflict, ((lower.merge middle).bind fun both => both.merge upper) = .error conflict := by
  intro lower middle upper
  have lowerPlain : lower.Plain := by decide
  have middlePlain : middle.Plain := by decide
  have upperPlain : upper.Plain := by decide
  have refusals := (merge_grouping lowerPlain middlePlain upperPlain).2
  exact ⟨_, _, rfl, rfl, by decide, (refusals _ _ rfl rfl).2 ⟨["l2"], ⟨_, rfl⟩, ⟨_, rfl⟩, _, rfl⟩⟩

end FlowConfig

end ManualTraffic
