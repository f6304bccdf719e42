/-
# ManualTraffic.Proofs.CommandLine.Validity -- a run works on accepted configurations alone

A run has its configurations from four places: the bundled defaults, the defaults file, the
argument of a flag, and the two objects that it writes itself, the empty one and the one around a
frame size.  Each of them is loaded from an accepted JSON value, and all that a run does with them
are copies and merges (`WorksOn`).  So each configuration that it works on comes out of accepted
values by these (`reached_of_worksOn`), and is accepted.
-/
import ManualTraffic.Proofs.CommandLine.InTurn
import ManualTraffic.Proofs.CommandLine.Integers
import ManualTraffic.Proofs.FlowConfig.Validity

namespace ManualTraffic

set_option autoImplicit false

open FlowConfig (ofJson? ofFrameSize)

/-! ## Where configurations come from -/

namespace FlowConfig

theorem reached_root : root.Reached := by
  have made : ofJson? (.object []) = some root := rfl
  exact reached_of_ofJson? made

theorem reached_ofFrameSize (size : Binary64) : (ofFrameSize size).Reached := by
  have made : ofJson? (.object [("l2", .object [("framesize", .number size)])]) =
      some (ofFrameSize size) := rfl
  exact reached_of_ofJson? made

theorem reached_bundled : Bundled.defaults.Reached := by
  have made : ofJson? Bundled.defaults.toJson = some Bundled.defaults := ofJson?_toJson
  exact reached_of_ofJson? made

end FlowConfig

namespace Settings

variable {environment : Environment} {read : FileReader} {bundledFile file : String}
  {defaults settled : FlowConfig} {settings : Settings}

theorem reached_of_withFrameSize (reached : defaults.Reached)
    (done : withFrameSize environment defaults = .ok settled) : settled.Reached := by
  unfold withFrameSize at done
  split at done
  · cases done
    exact reached
  · split at done
    · cases done
    · rename_i size whole
      split at done
      · rename_i merging
        cases done
        exact reached.mergeAt (FlowConfig.reached_ofFrameSize _) merging
      · cases done

/-- The defaults of the settings, however they were chosen. -/
theorem reached_of_load (loaded : load environment read bundledFile = .ok settings) :
    settings.defaults.Reached := by
  cases chosen : chooseDefaults environment read bundledFile with
  | error fault =>
      simp only [load, chosen, bind, Except.bind] at loaded
      cases loaded
  | ok choice =>
      obtain ⟨file, defaults⟩ := choice
      refine reached_of_withFrameSize ?_ (withFrameSize_of_load loaded chosen)
      rcases bundled_or_parsed_of_choose chosen with rfl | ⟨text, value, -, made⟩
      · exact FlowConfig.reached_bundled
      · exact FlowConfig.reached_of_ofJson? made

end Settings

namespace Request

variable {π : Type} {request : Request π} {flow config : FlowConfig} {override : Option FlowConfig}

theorem ReadFlow.reached (read : request.ReadFlow) (given : request.flow = some flow) :
    flow.Reached := by
  obtain ⟨argument, read⟩ := read flow given
  obtain ⟨value, -, made⟩ := parsed_of_config read
  exact FlowConfig.reached_of_ofJson? made

theorem ReadFlow.reached_override (read : request.ReadFlow)
    (done : request.override = .ok (some config)) : config.Reached := by
  unfold override at done
  split at done
  · exact read.reached (Except.ok.inj done)
  · split at done
    · rename_i merging
      cases done
      refine FlowConfig.Reached.mergeAt ?_ (FlowConfig.reached_ofFrameSize _) merging
      cases given : request.flow with
      | none => exact FlowConfig.reached_root
      | some flow => exact read.reached given
    · cases done

end Request

namespace Generator

variable {generator : Generator} {name : String} {given flow : FlowConfig}
  {override : Option FlowConfig}

theorem reached_of_create (reached : given.Reached) (created : create name given = .ok generator) :
    generator.defaults.Reached := by
  rw [defaults_of_create created]
  exact reached.clone

theorem reached_of_effective (reached : generator.defaults.Reached)
    (overrideReached : ∀ config, override = some config → config.Reached)
    (merged : generator.effective override = .ok flow) : flow.Reached := by
  cases override with
  | none =>
      cases merged
      exact reached.clone
  | some config => exact reached.mergeAt (overrideReached config rfl) (merge_of_effective merged)

end Generator

/-! ## Runs -/

namespace CommandLine

variable {host : Host} {words : List String} {request : Request (List Test)}
  {config flow : FlowConfig} {settings : Settings} {generator : Generator}
  {override : Option FlowConfig}

/-- The configurations that a run for some words works on. -/
inductive WorksOn (host : Host) (words : List String) : FlowConfig → Prop where
  /-- The defaults, with the frame size of the environment. -/
  | settled {settings : Settings}
      (loaded : Settings.load host.extended host.read host.bundledFile = .ok settings) :
      WorksOn host words settings.defaults
  /-- The override of the command line. -/
  | given {request : Request (List Test)} {flow : FlowConfig}
      (asked : Invocation.ofWords words = .run request) (gives : request.flow = some flow) :
      WorksOn host words flow
  /-- The override with the frame size beside it. -/
  | premerged {request : Request (List Test)} {config : FlowConfig}
      (asked : Invocation.ofWords words = .run request)
      (overridden : request.override = .ok (some config)) : WorksOn host words config
  /-- The defaults of the generator. -/
  | owned {request : Request (List Test)} {settings : Settings} {generator : Generator}
      (asked : Invocation.ofWords words = .run request)
      (loaded : Settings.load host.extended host.read host.bundledFile = .ok settings)
      (created : Generator.create request.generator settings.defaults = .ok generator) :
      WorksOn host words generator.defaults
  /-- The configuration of its tests, which is logged and announced. -/
  | sent {request : Request (List Test)} {settings : Settings} {generator : Generator}
      {override : Option FlowConfig} {flow : FlowConfig}
      (asked : Invocation.ofWords words = .run request)
      (equips : Equips host request settings generator override)
      (merged : generator.effective override = .ok flow) : WorksOn host words flow

theorem reached_of_worksOn (works : WorksOn host words config) : config.Reached := by
  cases works with
  | settled loaded => exact Settings.reached_of_load loaded
  | given asked gives => exact (Invocation.read_flow asked).reached gives
  | premerged asked overridden => exact (Invocation.read_flow asked).reached_override overridden
  | owned asked loaded created =>
      exact Generator.reached_of_create (Settings.reached_of_load loaded) created
  | sent asked equips merged =>
      have settled := Settings.reached_of_load equips.loaded
      refine Generator.reached_of_effective (Generator.reached_of_create settled equips.created)
        (fun config given => ?_) merged
      cases given
      exact (Invocation.read_flow asked).reached_override equips.overridden

theorem worksOn_of_sends (asked : Invocation.ofWords words = .run request)
    (loaded : Settings.load host.extended host.read host.bundledFile = .ok settings)
    (sends : request.Sends settings.defaults flow) : WorksOn host words flow := by
  obtain ⟨generator, override, created, overridden, merged, -⟩ := sends
  exact .sent asked ⟨loaded, created, overridden⟩ merged

/-- What a run announces first is a configuration that it works on. -/
theorem announced_worksOn (asked : Invocation.ofWords words = .run request) (input : List Char) :
    (execute host words input).stdout = host.startup.notice ∨
      ∃ kind stream flow more,
        (execute host words input).stdout =
          host.startup.notice ++ (Dialogue.announcement kind stream flow ++ "\n" ++ more) ∧
        WorksOn host words flow := by
  refine (stdout_execute asked input).imp_right ?_
  rintro ⟨settings, errand, flow, more, loaded, sends, told⟩
  exact ⟨errand.kind, errand.stream, flow, more, told, worksOn_of_sends asked loaded sends⟩

/-- **What is accepted, and that it stays so.**  The check accepts a JSON value exactly when it is
an object in which no array occurs, at any depth, under any key.

Copies and merges are said of values of any kind, where an array could come out; of configurations
they are those of the program, and so is loading.  There a copy of an accepted value is accepted,
and so is a merge of accepted values, whenever it succeeds, with the reserved key in them or not.
So every value that comes out of accepted ones by loading, copies and merges is accepted, and it
is a configuration of the program, which shows an accepted JSON value.

A generator that is given such a configuration owns one, and with such an override it comes to
one.  All that a run works on is such a configuration: the defaults of its settings and of its
generator, the override and what is merged into it, and the configurations that it announces. -/
theorem validity_kept :
    (∀ value : Json, (ofJson? value).isSome = true ↔
      (∃ members, value = .object members) ∧ ∀ items, ¬Json.Within (.array items) value) ∧
    (∀ value : Json, (ofJson? value).isSome = (Untyped.ofJson value).isConfig ∧
      ∀ config, ofJson? value = some config → config.untyped = Untyped.ofJson value) ∧
    (∀ defaults override : FlowConfig, defaults.clone.untyped = defaults.untyped.clone ∧
      ∀ path, (FlowConfig.mergeAt path defaults override).map FlowConfig.untyped =
        Untyped.mergeAt path defaults.untyped override.untyped) ∧
    (∀ defaults override : Untyped, defaults.isConfig = true → override.isConfig = true →
      defaults.clone.isConfig = true ∧
      ∀ path merged, Untyped.mergeAt path defaults override = .ok merged →
        merged.isConfig = true) ∧
    (∀ value : Untyped, value.Reached → value.isConfig = true ∧
      ∃ config : FlowConfig, value = config.untyped ∧ (ofJson? config.toJson).isSome = true) ∧
    (∀ name given generator, Generator.create name given = .ok generator → given.Reached →
      generator.defaults.Reached ∧
      ∀ override flow, (∀ config, override = some config → config.Reached) →
        generator.effective override = .ok flow → flow.Reached) ∧
    ∀ host words,
      (∀ config, WorksOn host words config →
        config.Reached ∧ config.untyped.isConfig = true) ∧
      ∀ request, Invocation.ofWords words = .run request → ∀ input,
        (execute host words input).stdout = host.startup.notice ∨
          ∃ kind stream flow more,
            (execute host words input).stdout =
              host.startup.notice ++ (Dialogue.announcement kind stream flow ++ "\n" ++ more) ∧
            WorksOn host words flow := by
  refine ⟨fun value => FlowConfig.ofJson?_isSome_iff, fun value => ?loading,
    fun defaults override => ⟨FlowConfig.untyped_clone, fun path => FlowConfig.untyped_mergeAt⟩,
    fun defaults override accepted _ => ?kept, fun value reached => ?reached,
    fun name given generator created reached => ?generator,
    fun host words => ⟨fun config works => ?works,
      fun request asked input => announced_worksOn asked input⟩⟩
  case loading =>
    exact ⟨FlowConfig.isSome_ofJson? value, fun config made => FlowConfig.untyped_of_ofJson? made⟩
  case kept =>
    have mapping := Untyped.isMapping_of_isConfig accepted
    exact ⟨Untyped.isConfig_clone mapping, fun path merged done =>
      Untyped.isConfig_mergeAt mapping done⟩
  case reached =>
    obtain ⟨config, same⟩ := reached.eq_untyped
    exact ⟨reached.isConfig, config, same, by rw [FlowConfig.ofJson?_toJson, Option.isSome_some]⟩
  case generator =>
    have owned := Generator.reached_of_create reached created
    exact ⟨owned, fun override flow given merged =>
      Generator.reached_of_effective owned given merged⟩
  case works =>
    have reached := reached_of_worksOn works
    exact ⟨reached, Untyped.Reached.isConfig reached⟩

/-- The reserved key in both: the merge goes into the layer of the defaults, where it writes a
mapping that lies on nothing.  A burst with these defaults as its override announces an accepted
configuration, and an array below the reserved key is refused. -/
theorem validity_kept_reserved :
    let lower := "\x7b\"__proto__\":\x7b\"l2\":null\x7d,\"a\":\"\"\x7d"
    let upper := "\x7b\"__proto__\":\x7b\"b\":\x7b\"__proto__\":null\x7d\x7d,\"a\":null\x7d"
    let refused : Json := .object [("__proto__", .object [("x", .array [])])]
    let host : Host := ⟨[], {}, fun _ => .error "no such file", "defaults.json"⟩
    let words := ["burst", "--traffic", lower]
    ∃ defaults override merged : FlowConfig,
      (Json.parse? lower.toList).bind ofJson? = some defaults ∧
      (Json.parse? upper.toList).bind ofJson? = some override ∧
      defaults.merge override = .ok merged ∧ merged.layer.own? "b" = some (.mapping .bare) ∧
      merged.untyped.isConfig = true ∧ (ofJson? refused).isSome = false ∧
      ∃ kind stream flow more,
        (execute host words []).stdout =
          host.startup.notice ++ (Dialogue.announcement kind stream flow ++ "\n" ++ more) ∧
        flow.untyped.isConfig = true := by
  intro lower upper refused host words
  let defaults : FlowConfig := .mapping FlowConfig.layerKey (.scalar "l2" .null .root)
    (.scalar "a" (.string "") .root)
  let override : FlowConfig := .mapping FlowConfig.layerKey
    (.mapping "b" (.scalar FlowConfig.layerKey .null .root) .root) (.scalar "a" .null .root)
  let merged : FlowConfig :=
    .scalar "a" .null (.over (.scalar "l2" .null (.mapping "b" .bare .root)))
  obtain ⟨accepts, -, commutes, kept, -, -, working⟩ := validity_kept
  have reads : (Json.parse? lower.toList).bind ofJson? = some defaults := by decide +kernel
  have reads' : (Json.parse? upper.toList).bind ofJson? = some override := by decide +kernel
  have done : defaults.merge override = .ok merged := by decide +kernel
  have same : Untyped.mergeAt "" defaults.untyped override.untyped = .ok merged.untyped := by
    rw [← (commutes defaults override).2 ""]
    exact congrArg (Except.map FlowConfig.untyped) done
  have mergedKept := (kept defaults.untyped override.untyped rfl rfl).2 "" merged.untyped same
  have array : (ofJson? refused).isSome = false := by
    rw [← Bool.not_eq_true, accepts refused]
    rintro ⟨-, free⟩
    exact free [] (.member (.head _) (.member (.head _) .self))
  refine ⟨defaults, override, merged, reads, reads', done, rfl, mergedKept, array, ?_⟩
  obtain ⟨works, announces⟩ := working host words
  have runs : (request? (Invocation.ofWords words)).isSome = true := by decide +kernel
  obtain ⟨request, asks⟩ := Option.isSome_iff_exists.1 runs
  have asked := request?_eq_some asks
  have told : (execute host words []).stdout ≠ host.startup.notice := by decide +kernel
  obtain ⟨kind, stream, flow, more, wrote, worked⟩ :=
    (announces request asked []).resolve_left told
  exact ⟨kind, stream, flow, more, wrote, (works flow worked).2⟩

end CommandLine

end ManualTraffic
