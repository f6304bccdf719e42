/-
# ManualTraffic.Proofs.FlowConfig.Independence -- overrides that can be merged in either order

Two overrides are *independent* when no scalar of the one stands where the other has a node
(`Independent`): they may share mappings, to any depth, and nothing else.  Laid over one another
their shapes come out the same in either order, and so it does not matter which of them is laid
over a third shape first, nor whether the first or the second one clashes with it
(`Shape.Independent.over_comm`, `Shape.Independent.clash_comm`).

So the two orders of merging are refused together, and where they go through they hold the same
nodes (`independent_merges`).  The keys of a mapping may come in another order, which no reader of
the frame size sees (`frameSize_of_shapes`).
-/
import ManualTraffic.Proofs.FlowConfig.Grouping
import ManualTraffic.Proofs.FlowConfig.OwnEntries
import ManualTraffic.Proofs.Generator.Announcement

namespace ManualTraffic

set_option autoImplicit false

namespace FlowConfig

variable {config defaults one other both both' : FlowConfig} {path : List String}

/-! ## Independent shapes -/

/-- Where there are two shapes, both are mappings. -/
def Shape.Independent (one other : Option Shape) : Prop :=
  ∀ here there, one = some here → other = some there → here = .mapping ∧ there = .mapping

section

variable {first second lower : Option Shape}

/-- Independent shapes are laid over one another in either order. -/
theorem Shape.Independent.over_comm (independent : Shape.Independent first second) :
    Shape.over first second = Shape.over second first := by
  rcases first with _ | first <;> rcases second with _ | second
  · rfl
  · rw [Shape.over_none, Shape.over]
  · rw [Shape.over_none, Shape.over]
  · obtain ⟨rfl, rfl⟩ := independent _ _ rfl rfl
    rfl

theorem Shape.Independent.over_over_comm (independent : Shape.Independent first second) :
    Shape.over second (Shape.over first lower) = Shape.over first (Shape.over second lower) := by
  rw [Shape.over_assoc, Shape.over_assoc, independent.over_comm]

/-- A clash that one of two independent shapes meets on the way is met in either order. -/
theorem Shape.Independent.clash_comm (independent : Shape.Independent first second) :
    (Shape.Clash lower first ∨ Shape.Clash (Shape.over first lower) second) ↔
      (Shape.Clash lower second ∨ Shape.Clash (Shape.over second lower) first) := by
  have absent (lower : Option Shape) : ¬Shape.Clash lower none := by
    rintro ⟨-, value, found⟩
    cases found
  rcases first with _ | first <;> rcases second with _ | second
  · rfl
  · simp only [absent, Shape.over, or_false, false_or]
  · simp only [absent, Shape.over, or_false, false_or]
  · obtain ⟨rfl, rfl⟩ := independent _ _ rfl rfl
    rfl

end

/-! ## Independent overrides -/

/-- Where both overrides have a node, both nodes are mappings. -/
def Independent (one other : FlowConfig) : Prop :=
  ∀ path here there, one.nodeAt? path = some here → other.nodeAt? path = some there →
    (∃ inner, here = .mapping inner) ∧ ∃ inner, there = .mapping inner

theorem Independent.shapes (independent : Independent one other) (path : List String) :
    Shape.Independent (one.shapeAt? path) (other.shapeAt? path) := by
  intro here there first second
  obtain ⟨node, found, rfl⟩ := Option.map_eq_some_iff.1 first
  obtain ⟨node', found', rfl⟩ := Option.map_eq_some_iff.1 second
  obtain ⟨⟨inner, rfl⟩, ⟨inner', rfl⟩⟩ := independent path node node' found found'
  exact ⟨rfl, rfl⟩

/-- Two configurations hold the same nodes, up to the order of the keys in a mapping. -/
structure SameNodes (one other : FlowConfig) : Prop where
  shapes : ∀ path, one.shapeAt? path = other.shapeAt? path
  keys : ∀ path keys keys', one.keysAt? path = some keys → other.keysAt? path = some keys' →
    keys.Perm keys'

/-- The shapes of plain configurations tell their keys. -/
theorem sameNodes_of_shapes (plain : one.Plain) (otherPlain : other.Plain)
    (shapes : ∀ path, one.shapeAt? path = other.shapeAt? path) : SameNodes one other where
  shapes := shapes
  keys path keys keys' here there := by
    refine (List.perm_ext_iff_of_nodup (nodup_keysAt? plain _ here)
      (nodup_keysAt? otherPlain _ there)).2 fun key => ?_
    rw [mem_keysAt? here, mem_keysAt? there, ← isSome_shapeAt?, ← isSome_shapeAt?, shapes]

/-! ## Frame sizes -/

/-- The frame size that is told by the shape at `l2` and the one below it. -/
def Shape.frameSize : Option Shape → Option Shape → Except Fault Binary64
  | some .mapping, some (.scalar (.number size)) =>
      if size.isFinite then .ok size else .error .noFrameSize
  | some .mapping, _ => .error .noFrameSize
  | _, _ => .error .noLinkLayer

/-- On the common root, only shapes count for the frame size. -/
theorem frameSize_of_shapes (grounded : config.Grounded) :
    config.frameSize =
      Shape.frameSize (config.shapeAt? ["l2"]) (config.shapeAt? ["l2", "framesize"]) := by
  have functions : rootFunctions.contains "l2" = false ∧
      rootFunctions.contains "framesize" = false := by decide +kernel
  rw [frameSize, read_of_lowest grounded.onRoot (by decide), shapeAt?_singleton]
  rcases own : config.own? "l2" with _ | ⟨value⟩ | ⟨l2⟩
  · rw [functions.1]
    rfl
  · rfl
  · rw [shapeAt?_under own, shapeAt?_singleton]
    dsimp only
    rw [read_of_lowest (grounded.within l2 own) (by decide)]
    rcases l2.own? "framesize" with _ | ⟨value⟩ | ⟨inner⟩
    · rw [functions.2]
      rfl
    · cases value <;> rfl
    · rfl

/-! ## Either order -/

section

variable (plain : defaults.Plain) (onePlain : one.Plain) (otherPlain : other.Plain)

include plain onePlain otherPlain

/-- Merges that go through one by one are tidy, and lay the shapes over one another in turn. -/
theorem shapes_one_by_one
    (done : ((defaults.merge one).bind fun merged => merged.merge other) = .ok both) :
    both.Tidy ∧ ∀ path, both.shapeAt? path =
      Shape.over (other.shapeAt? path) (Shape.over (one.shapeAt? path) (defaults.shapeAt? path)) := by
  cases first : defaults.merge one with
  | error conflict =>
      rw [first] at done
      cases done
  | ok merged =>
      have second : merged.merge other = .ok both := by rwa [first] at done
      have mergedPlain := (tidy_mergeAt plain onePlain first).toPlain
      refine ⟨tidy_mergeAt mergedPlain otherPlain second, fun path => ?_⟩
      rw [shapeAt?_mergeAt mergedPlain otherPlain second, shapeAt?_mergeAt plain onePlain first]

/-- Independent overrides are refused in either order or in none. -/
theorem refused_either_order (independent : Independent one other) :
    (∃ conflict, ((defaults.merge one).bind fun merged => merged.merge other) = .error conflict) ↔
      ∃ conflict,
        ((defaults.merge other).bind fun merged => merged.merge one) = .error conflict := by
  rw [refused_one_by_one_iff plain onePlain otherPlain,
    refused_one_by_one_iff plain otherPlain onePlain]
  exact exists_congr fun path => (independent.shapes path).clash_comm

/-- **Independent overrides can be merged in either order.**  Both orders go through or none does,
and what comes of them holds the same nodes, the order of keys aside, and has the same frame size
or lacks it for the same reason. -/
theorem independent_merges (independent : Independent one other) :
    ((∃ both, ((defaults.merge one).bind fun merged => merged.merge other) = .ok both) ↔
      ∃ both, ((defaults.merge other).bind fun merged => merged.merge one) = .ok both) ∧
    ∀ both both', ((defaults.merge one).bind fun merged => merged.merge other) = .ok both →
      ((defaults.merge other).bind fun merged => merged.merge one) = .ok both' →
      SameNodes both both' ∧ both.frameSize = both'.frameSize := by
  constructor
  · have passes (result : Except MergeConflict FlowConfig) :
        (∃ both, result = .ok both) ↔ ¬∃ conflict, result = .error conflict := by
      cases result <;> simp
    rw [passes, passes, refused_either_order plain onePlain otherPlain independent]
  · intro both both' done done'
    obtain ⟨tidy, shapes⟩ := shapes_one_by_one plain onePlain otherPlain done
    obtain ⟨tidy', shapes'⟩ := shapes_one_by_one plain otherPlain onePlain done'
    have same (path : List String) : both.shapeAt? path = both'.shapeAt? path := by
      rw [shapes, shapes', (independent.shapes path).over_over_comm]
    refine ⟨sameNodes_of_shapes tidy.toPlain tidy'.toPlain same, ?_⟩
    rw [frameSize_of_shapes tidy.grounded, frameSize_of_shapes tidy'.grounded, same, same]

end

/-- Two overrides that put the same mapping where the defaults have null, each with an entry of
its own: the entries come in either order. -/
theorem independent_merges_shared :
    let size : Scalar := .number (.ofNat false 64)
    let defaults : FlowConfig := .scalar "l2" .null (.scalar "bidir" (.string "False") .root)
    let one : FlowConfig := .mapping "l2" (.scalar "framesize" size .root) .root
    let other : FlowConfig := .mapping "l2" (.scalar "tagged" (.bool true) .root) .root
    Independent one other ∧ ∃ both both',
      ((defaults.merge one).bind fun merged => merged.merge other) = .ok both ∧
      ((defaults.merge other).bind fun merged => merged.merge one) = .ok both' ∧
      both.keysAt? ["l2"] = some ["framesize", "tagged"] ∧
      both'.keysAt? ["l2"] = some ["tagged", "framesize"] ∧
      SameNodes both both' ∧ both.frameSize = both'.frameSize := by
  intro size defaults one other
  have independent : Independent one other := by
    rintro (_ | ⟨k, path⟩) here there first second
    · rw [nodeAt?_nil] at first second
      exact ⟨⟨_, (Option.some.inj first).symm⟩, _, (Option.some.inj second).symm⟩
    rw [nodeAt?_cons] at first second
    obtain ⟨inner, own, first⟩ := Option.bind_eq_some_iff.1 first
    obtain ⟨inner', own', second⟩ := Option.bind_eq_some_iff.1 second
    have shared : "l2" = k := by
      by_contra apart
      simp [one, own?, apart] at own
    subst shared
    cases own
    cases own'
    cases path with
    | nil => exact ⟨⟨_, (Option.some.inj first).symm⟩, _, (Option.some.inj second).symm⟩
    | cons k path =>
        -- the entries within the shared mapping have different keys
        rw [Node.nodeAt?, nodeAt?_cons] at first second
        obtain ⟨value, within, -⟩ := Option.bind_eq_some_iff.1 first
        obtain ⟨value', within', -⟩ := Option.bind_eq_some_iff.1 second
        by_cases hit : "framesize" = k
        · subst hit
          simp [own?] at within'
        · simp [own?, hit] at within
  have merges := (independent_merges (by decide : defaults.Plain) (by decide : one.Plain)
    (by decide : other.Plain) independent).2
  exact ⟨independent, _, _, rfl, rfl, rfl, rfl, merges _ _ rfl rfl⟩

end FlowConfig

end ManualTraffic
