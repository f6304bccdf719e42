/-
# ManualTraffic.Proofs.CommandLine.Effective -- the configuration that a run announces

A run puts its configuration together from four sources: the defaults, the frame size that
the environment sets, the override of the command line and the frame size beside it.  They
meet in three merges, the environment with the defaults, the frame size with the override,
and then the one with the other.  Each of these lays shape over shape and goes through only
where no scalar meets a mapping (`Layers`), so along every path the sources can be read
off as they stand, the frame size beside the override first (`Combines`).
-/
import ManualTraffic.Proofs.CommandLine.Sorting
import ManualTraffic.Proofs.CommandLine.Opening
import ManualTraffic.Proofs.FlowConfig.Clash
import ManualTraffic.Proofs.Generator.Announcement

namespace ManualTraffic

set_option autoImplicit false

namespace FlowConfig

variable {defaults override merged settled flow : FlowConfig} {path : List String}
  {traffic given : Option FlowConfig} {setting option : Option Binary64} {size : Binary64}

/-! ## Sources -/

/-- The node that a source has at a path, if there is a source. -/
def nodeOf? (source : Option FlowConfig) (path : List String) : Option Node :=
  source.bind fun config => config.nodeAt? path

/-- The shape that a source has at a path. -/
def shapeOf? (source : Option FlowConfig) (path : List String) : Option Shape :=
  (nodeOf? source path).map Node.shape

/-- The path of the frame size. -/
def sizePath : List String := ["l2", "framesize"]

/-- How four sources combine: the frame size is that of the first source that has one, the
option before the override, and these before the setting and the defaults; at any other
path the scalars are those of the override, and those of the defaults where the override
has nothing.  About the scalar that may stand in place of the mapping of the frame size
nothing is said. -/
structure Combines (defaults : FlowConfig) (setting : Option Binary64)
    (traffic : Option FlowConfig) (option : Option Binary64) (flow : FlowConfig) : Prop where
  framesize : flow.nodeAt? sizePath =
    (option.map fun size => .scalar (.number size)).or ((nodeOf? traffic sizePath).or
      ((setting.map fun size => .scalar (.number size)).or (defaults.nodeAt? sizePath)))
  scalars : ∀ path value, path ≠ ["l2"] → path ≠ sizePath →
    (flow.nodeAt? path = some (.scalar value) ↔
      nodeOf? traffic path = some (.scalar value) ∨
        nodeOf? traffic path = none ∧ defaults.nodeAt? path = some (.scalar value))

theorem plain_ofFrameSize (size : Binary64) : (ofFrameSize size).Plain :=
  ⟨⟨rfl, ⟨rfl, trivial⟩, trivial⟩, by decide, ⟨by decide, trivial⟩, trivial⟩

/-- The override that sets the frame size alone has no other scalar. -/
theorem nodeAt?_ofFrameSize_of_ne (inside : path ≠ []) (notLayer : path ≠ ["l2"])
    (notSize : path ≠ sizePath) : (ofFrameSize size).nodeAt? path = none := by
  match path with
  | [] => exact absurd rfl inside
  | [k] =>
      have apart : "l2" ≠ k := fun same => notLayer (same ▸ rfl)
      simp [nodeAt?_cons, ofFrameSize, own?, apart]
  | k :: k' :: deeper =>
      rw [nodeAt?_cons]
      by_cases layer : "l2" = k
      · by_cases within : "framesize" = k'
        · cases deeper with
          | nil => exact absurd (by rw [← layer, ← within, sizePath]) notSize
          | cons k'' deeper =>
              simp [ofFrameSize, own?, layer, within, Node.nodeAt?, nodeAt?_cons]
        · simp [ofFrameSize, own?, layer, within, Node.nodeAt?, nodeAt?_cons]
      · simp [ofFrameSize, own?, layer]

theorem shapeOf?_ofFrameSize (inside : path ≠ []) (notLayer : path ≠ ["l2"])
    (notSize : path ≠ sizePath) : shapeOf? (option.map ofFrameSize) path = none := by
  cases option with
  | none => rfl
  | some size =>
      simp [shapeOf?, nodeOf?, nodeAt?_ofFrameSize_of_ne inside notLayer notSize]

/-! ## Layers -/

/-- Below the root the shapes of one source lie over those of another, and no scalar of the
upper one meets a mapping. -/
structure Layers (upper lower result : List String → Option Shape) : Prop where
  shape : ∀ path, path ≠ [] → result path = Shape.over (upper path) (lower path)
  apart : ∀ path, path ≠ [] → ¬Shape.Clash (lower path) (upper path)

theorem layers_of_merge (plain : defaults.Plain) (overridePlain : override.Plain)
    (done : defaults.merge override = .ok merged) :
    Layers override.shapeAt? defaults.shapeAt? merged.shapeAt? where
  shape _ _ := shapeAt?_mergeAt plain overridePlain done
  apart path _ := apart_of_merge plain overridePlain done path

theorem layers_nothing (lower : List String → Option Shape) :
    Layers (fun _ => none) lower lower where
  shape _ _ := rfl
  apart := by
    rintro path - ⟨-, value, nothing⟩
    cases nothing

theorem Layers.of_lower {upper lower lower' result : List String → Option Shape}
    (layers : Layers upper lower result) (same : ∀ path, path ≠ [] → lower path = lower' path) :
    Layers upper lower' result where
  shape path inside := by rw [← same path inside, layers.shape path inside]
  apart path inside := by
    rw [← same path inside]
    exact layers.apart path inside

/-! ## Reading off the sources -/

theorem Shape.or_of_over {upper lower : Option Shape} {value : Scalar}
    (done : Shape.over upper lower = some (.scalar value)) :
    upper.or lower = some (.scalar value) := by
  rcases over_eq_scalar_iff.1 done with ⟨rfl, -⟩ | ⟨rfl, below⟩
  · rfl
  · exact below

/-- A scalar that comes out of layers of layers is that of the first one that is not
empty. -/
theorem Shape.or_of_over_over {first second third fourth : Option Shape} {value : Scalar}
    (done : Shape.over (Shape.over first second) (Shape.over third fourth) =
      some (.scalar value)) :
    first.or (second.or (third.or fourth)) = some (.scalar value) := by
  rcases over_eq_scalar_iff.1 done with ⟨upper, -⟩ | ⟨nothing, lower⟩
  · rw [← Option.or_assoc, or_of_over upper]
    rfl
  · obtain ⟨rfl, rfl⟩ := over_eq_none_iff.1 nothing
    rw [Option.none_or, Option.none_or]
    exact or_of_over lower

section

variable {onTop beneath : List String → Option Shape}
  (above : Layers (shapeOf? (option.map ofFrameSize)) (shapeOf? traffic) onTop)
  (below : Layers (shapeOf? (setting.map ofFrameSize)) defaults.shapeAt? beneath)
  (together : Layers onTop beneath flow.shapeAt?)

include above below together

theorem framesize_of_layers (found : flow.nodeAt? sizePath = some (.scalar (.number size))) :
    flow.nodeAt? sizePath =
      (option.map fun size => .scalar (.number size)).or ((nodeOf? traffic sizePath).or
        ((setting.map fun size => .scalar (.number size)).or (defaults.nodeAt? sizePath))) := by
  have inside : sizePath ≠ [] := nofun
  have layered := shapeAt?_eq_scalar_iff.2 found
  rw [together.shape _ inside, above.shape _ inside, below.shape _ inside] at layered
  have first := Shape.or_of_over_over layered
  have sized : ∀ source : Option Binary64, shapeOf? (source.map ofFrameSize) sizePath =
      (source.map fun size => Node.scalar (.number size)).map Node.shape := by
    intro source
    cases source <;> rfl
  rw [sized, sized, shapeOf?, shapeAt?, ← Option.map_or, ← Option.map_or, ← Option.map_or] at first
  exact found.trans (Node.map_shape_eq_scalar_iff.1 first).symm

theorem scalar_of_layers_iff {value : Scalar} (notLayer : path ≠ ["l2"])
    (notSize : path ≠ sizePath) :
    flow.nodeAt? path = some (.scalar value) ↔
      nodeOf? traffic path = some (.scalar value) ∨
        nodeOf? traffic path = none ∧ defaults.nodeAt? path = some (.scalar value) := by
  by_cases inside : path = []
  · subst inside
    cases traffic <;> simp [nodeOf?, nodeAt?_nil]
  · have top : onTop path = shapeOf? traffic path := by
      rw [above.shape path inside, shapeOf?_ofFrameSize inside notLayer notSize]
      rfl
    have bottom : beneath path = defaults.shapeAt? path := by
      rw [below.shape path inside, shapeOf?_ofFrameSize inside notLayer notSize]
      rfl
    have apart := together.apart path inside
    have unmapped : shapeOf? traffic path = some (.scalar value) →
        defaults.shapeAt? path ≠ some .mapping := by
      intro scalar mapped
      exact apart ⟨bottom.trans mapped, value, top.trans scalar⟩
    rw [← shapeAt?_eq_scalar_iff, together.shape path inside, top, bottom,
      Shape.over_eq_scalar_iff, and_iff_left_of_imp unmapped, shapeAt?_eq_scalar_iff, shapeOf?,
      Node.map_shape_eq_scalar_iff, Option.map_eq_none_iff]

theorem combines_of_layers (found : flow.nodeAt? sizePath = some (.scalar (.number size))) :
    Combines defaults setting traffic option flow where
  framesize := framesize_of_layers above below together found
  scalars _ _ := scalar_of_layers_iff above below together

end

end FlowConfig

open FlowConfig (shapeOf? Layers Combines sizePath ofFrameSize)

/-! ## The environment and the defaults -/

namespace Settings

variable {environment : Environment} {read : FileReader} {bundledFile file : String}
  {defaults settled : FlowConfig} {settings : Settings}

/-- The frame size that an environment sets, if it sets one. -/
def frameSizeOf (environment : Environment) : Option Binary64 :=
  (environment.nonEmpty? frameSizeVariable).bind fun text =>
    (Text.wholeNumber? text).map (Binary64.ofNat false)

/-- The defaults are the bundled ones, or they are read from a text. -/
theorem bundled_or_parsed_of_choose (chosen : chooseDefaults environment read bundledFile =
    .ok (file, defaults)) : defaults = Bundled.defaults ∨
      ∃ text value, Json.parse? text = some value ∧ FlowConfig.ofJson? value = some defaults := by
  unfold chooseDefaults at chosen
  split at chosen
  · cases chosen
    exact .inl rfl
  · split at chosen
    · rename_i loaded
      cases chosen
      unfold loadDefaults at loaded
      split at loaded
      · cases loaded
      · split at loaded
        · cases loaded
        · rename_i value parsed
          split at loaded
          · cases loaded
          · rename_i made
            cases loaded
            exact .inr ⟨_, value, parsed, made⟩
    · cases chosen

theorem distinct_of_choose (chosen : chooseDefaults environment read bundledFile =
    .ok (file, defaults)) : defaults.Distinct := by
  rcases bundled_or_parsed_of_choose chosen with rfl | ⟨text, value, parsed, made⟩
  · decide
  · exact FlowConfig.distinct_of_parse parsed made

theorem withFrameSize_of_load (loaded : load environment read bundledFile = .ok settings)
    (chosen : chooseDefaults environment read bundledFile = .ok (file, defaults)) :
    withFrameSize environment defaults = .ok settings.defaults := by
  simp only [load, chosen, bind, Except.bind, pure, Except.pure] at loaded
  split at loaded
  · cases loaded
  · rename_i settled done
    split at loaded
    · cases loaded
    · cases loaded
      exact done

theorem layers_withFrameSize (plain : defaults.Plain)
    (done : withFrameSize environment defaults = .ok settled) :
    settled.Plain ∧ Layers (shapeOf? ((frameSizeOf environment).map ofFrameSize))
      defaults.shapeAt? settled.shapeAt? := by
  unfold withFrameSize at done
  unfold frameSizeOf
  split at done
  · rename_i unset
    cases done
    rw [unset]
    exact ⟨plain, FlowConfig.layers_nothing _⟩
  · rename_i text set
    split at done
    · cases done
    · rename_i size whole
      split at done
      · rename_i merging
        cases done
        have sizePlain := FlowConfig.plain_ofFrameSize (.ofNat false size)
        rw [set, Option.bind_some, whole]
        exact ⟨(plain.mergeAt sizePlain merging).toPlain,
          FlowConfig.layers_of_merge plain sizePlain merging⟩
      · cases done

end Settings

/-! ## The override of a request -/

theorem Request.layers_override {π : Type} {request : Request π} {override : Option FlowConfig}
    (plain : ∀ traffic, request.flow = some traffic → traffic.Plain)
    (done : request.override = .ok override) :
    (∀ config, override = some config → config.Plain) ∧
      Layers (shapeOf? (request.framesize.map ofFrameSize)) (shapeOf? request.flow)
        (shapeOf? override) := by
  unfold Request.override at done
  split at done
  · rename_i unset
    cases done
    rw [unset]
    exact ⟨plain, FlowConfig.layers_nothing _⟩
  · rename_i size set
    split at done
    · rename_i merged merging
      cases done
      rw [set]
      have sizePlain := FlowConfig.plain_ofFrameSize size
      have lowerPlain : (request.flow.getD .root).Plain := by
        cases given : request.flow with
        | none => exact ⟨trivial, trivial⟩
        | some traffic => exact plain traffic given
      have mergedPlain := (lowerPlain.mergeAt sizePlain merging).toPlain
      refine ⟨fun config same => Option.some.inj same ▸ mergedPlain, ?_⟩
      refine (FlowConfig.layers_of_merge lowerPlain sizePlain merging).of_lower ?_
      -- below the root, no override is as good as an empty one
      intro path inside
      cases request.flow with
      | none =>
          cases path with
          | nil => exact absurd rfl inside
          | cons k path => rfl
      | some traffic => rfl
    · cases done

/-! ## The configuration of a test -/

theorem Generator.layers_effective {generator : Generator} {override : Option FlowConfig}
    {flow : FlowConfig} (plain : generator.defaults.Plain)
    (overridePlain : ∀ config, override = some config → config.Plain)
    (merged : generator.effective override = .ok flow) :
    Layers (shapeOf? override) generator.defaults.shapeAt? flow.shapeAt? := by
  cases override with
  | none =>
      cases merged
      refine (FlowConfig.layers_nothing generator.defaults.clone.shapeAt?).of_lower ?_
      exact fun _ _ => FlowConfig.shapeAt?_clone plain
  | some config =>
      exact FlowConfig.layers_of_merge plain (overridePlain config rfl) (merge_of_effective merged)

/-! ## Runs -/

namespace CommandLine

variable {host : Host} {words : List String} {request : Request (List Test)} {file : String}
  {defaults flow : FlowConfig} {settings : Settings}

/-- What a request sends under its settings combines the four sources. -/
theorem combines_of_sends (plain : defaults.Plain)
    (trafficPlain : ∀ traffic, request.flow = some traffic → traffic.Plain)
    (settled : Settings.withFrameSize host.extended defaults = .ok settings.defaults)
    (sends : request.Sends settings.defaults flow) :
    Combines defaults (Settings.frameSizeOf host.extended) request.flow request.framesize flow := by
  obtain ⟨generator, override, created, overridden, merged, size, sized⟩ := sends
  obtain ⟨settledPlain, below⟩ := Settings.layers_withFrameSize plain settled
  obtain ⟨overridePlain, above⟩ := Request.layers_override trafficPlain overridden
  have copied : generator.defaults = settings.defaults.clone :=
    Generator.defaults_of_create created
  have generatorPlain : generator.defaults.Plain := copied ▸ settledPlain.clone.toPlain
  have together : Layers (shapeOf? override) settings.defaults.shapeAt? flow.shapeAt? := by
    refine (Generator.layers_effective generatorPlain overridePlain merged).of_lower ?_
    intro path _
    rw [copied, FlowConfig.shapeAt?_clone settledPlain]
  have grounded : flow.Grounded :=
    Generator.grounded_of_effective generatorPlain
      (fun config given => (overridePlain config given).unlayered) merged
  exact FlowConfig.combines_of_layers above below together (grounded.nodeAt?_of_has sized)

/-- **The configuration that a run announces.**  Where neither the defaults nor the override
have the reserved key, a run announces nothing, or the first thing that it writes behind
the notice of its start is an announcement whose configuration combines the defaults, the
frame size of the environment, the override and the frame size beside it. -/
theorem announced_combines (asked : Invocation.ofWords words = .run request)
    (chosen : Settings.chooseDefaults host.extended host.read host.bundledFile =
      .ok (file, defaults))
    (layerFree : defaults.LayerFree)
    (trafficFree : ∀ traffic, request.flow = some traffic → traffic.LayerFree)
    (input : List Char) :
    (execute host words input).stdout = host.startup.notice ∨
      ∃ kind stream flow more,
        (execute host words input).stdout =
          host.startup.notice ++ (Dialogue.announcement kind stream flow ++ "\n" ++ more) ∧
        Combines defaults (Settings.frameSizeOf host.extended) request.flow request.framesize
          flow := by
  refine (stdout_execute asked input).imp_right ?_
  rintro ⟨settings, errand, flow, more, loaded, sends, told⟩
  refine ⟨errand.kind, errand.stream, flow, more, told, ?_⟩
  have plain : defaults.Plain := ⟨Settings.distinct_of_choose chosen, layerFree⟩
  have distinct := Invocation.distinct_flow asked
  have trafficPlain : ∀ traffic, request.flow = some traffic → traffic.Plain :=
    fun traffic given => ⟨distinct traffic given, trafficFree traffic given⟩
  exact combines_of_sends plain trafficPlain (Settings.withFrameSize_of_load loaded chosen) sends

/-- A burst with the bundled defaults, a frame size from the environment and an override. -/
theorem announced_combines_burst :
    let host : Host :=
      ⟨[("TRAFFICGEN_FRAMESIZE", "128")], {}, fun _ => .error "no such file", "defaults.json"⟩
    let words := ["burst", "--traffic", "\x7b\"l3\":\x7b\"proto\":\"tcp\"\x7d\x7d"]
    ∃ kind stream flow more,
      (execute host words []).stdout =
        host.startup.notice ++ (Dialogue.announcement kind stream flow ++ "\n" ++ more) ∧
      flow.nodeAt? sizePath = some (.scalar (.number (.ofNat false 128))) ∧
      flow.nodeAt? ["l3", "proto"] = some (.scalar (.string "tcp")) ∧
      flow.nodeAt? ["l3", "srcip"] = some (.scalar (.string "1.1.1.1")) := by
  intro host words
  let traffic : FlowConfig := .mapping "l3" (.scalar "proto" (.string "tcp") .root) .root
  have reads : (match Invocation.ofWords words with
      | .run request => decide (request.flow = some traffic ∧ request.framesize = none)
      | _ => false) = true := by
    decide +kernel
  split at reads
  case h_2 => cases reads
  rename_i request asked
  obtain ⟨given, unsized⟩ := of_decide_eq_true reads
  have chosen : Settings.chooseDefaults host.extended host.read host.bundledFile =
      .ok ("defaults.json", Bundled.defaults) := rfl
  have set : Settings.frameSizeOf host.extended = some (.ofNat false 128) := by decide +kernel
  have layerFree : Bundled.defaults.LayerFree := by decide
  have trafficFree : ∀ traffic, request.flow = some traffic → traffic.LayerFree := by
    intro traffic same
    rw [given] at same
    cases same
    decide
  have told : (execute host words []).stdout ≠ host.startup.notice := by decide +kernel
  obtain ⟨kind, stream, flow, more, wrote, framesize, scalars⟩ :=
    (announced_combines asked chosen layerFree trafficFree []).resolve_left told
  rw [given, unsized, set] at framesize
  rw [given] at scalars
  have noSize : FlowConfig.nodeOf? (some traffic) sizePath = none := by decide
  rw [noSize] at framesize
  have proto := (scalars ["l3", "proto"] (.string "tcp") (by decide) (by decide)).2 (.inl rfl)
  have srcip :=
    (scalars ["l3", "srcip"] (.string "1.1.1.1") (by decide) (by decide)).2 (.inr ⟨rfl, rfl⟩)
  exact ⟨kind, stream, flow, more, wrote, framesize, proto, srcip⟩

end CommandLine

end ManualTraffic
