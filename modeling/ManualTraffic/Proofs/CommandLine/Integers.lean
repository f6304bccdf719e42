/-
# ManualTraffic.Proofs.CommandLine.Integers -- whole numbers on their way to a generator

A whole number that the command line or the environment writes in digits is rounded to a
number of the format (`Binary64.RoundedFrom`).  It reaches the tests as it was written exactly
if it is below `2 ^ 1024` and has no bit set behind its 53 leading ones; else it reaches them
changed, since none is refused for its size (`Request.integer_eq_ok_iff`).  From
`Binary64.limit` on it reaches them as infinity, which a test with a duration then refuses.

Each option fills its own field of a plan (`Flag.Fills`), so what a test runs with is what the
last argument of the option reads as, or the default that the command line starts from; for the
tests of `all`, which has no such options, it is the choice of the generator
(`Test.IntegerOption.HandedOn`).  The frame sizes of the command line and of the environment
stand, once merged, in the configurations that the generator is given (`FlowConfig.SizedBy`).
-/
import ManualTraffic.Proofs.CommandLine.Arguments
import ManualTraffic.Proofs.CommandLine.Effective
import ManualTraffic.Proofs.Results.Range

namespace ManualTraffic

set_option autoImplicit false

/-! ## Rounding -/

namespace Binary64

variable {n : Nat} {value : Binary64}

/-- What a number keeps of the whole number that was rounded to it. -/
structure RoundedFrom (n : Nat) (value : Binary64) : Prop where
  rounded : value = .ofNat false n
  exact_iff : value.whole? = some (false, n) ↔ n < beyond ∧ 2 ^ (n.log2 - 52) ∣ n
  exact_of_le : n ≤ 2 ^ 53 → value.whole? = some (false, n)
  finite_iff : value.isFinite = true ↔ n < limit
  lasts_iff : 0 < n → (Results.positiveDuration (some value) = .ok value ↔ n < limit)

theorem roundedFrom_of_ofNat (rounded : .ofNat false n = value) : RoundedFrom n value where
  rounded := rounded.symm
  exact_iff := by
    rw [← rounded, whole?_ofNat_iff, representable_whole_iff]
  exact_of_le small := by
    rw [← rounded, whole?_ofNat_iff]
    exact representable_of_le small
  finite_iff := by
    rw [← rounded, isFinite_ofNat_iff]
  lasts_iff above := by
    rw [← isPositive_ofNat_iff above, rounded]
    exact ⟨fun lasts => (Results.isPositive_of_positiveDuration lasts).2,
      Results.positiveDuration_of_isPositive⟩

end Binary64

open Binary64 (RoundedFrom roundedFrom_of_ofNat)

/-! ## Reading -/

namespace Request

variable {π α β : Type} {name long other argument text : String} {short : Option Char}
  {shown : Option String} {value : Binary64} {read : String → Except String β}
  {put : Request π → β → Request π} {parse : String → Except String α} {get : Request π → α}

theorem integer_eq_ok_iff : integer argument = .ok value ↔
    ∃ n, Text.wholeNumber? argument = some n ∧ .ofNat false n = value := by
  unfold integer
  cases Text.wholeNumber? argument with
  | none => exact iff_of_false nofun nofun
  | some n =>
      constructor
      · exact fun read => ⟨n, rfl, Except.ok.inj read⟩
      · rintro ⟨m, same, rounded⟩
        rw [Option.some.inj same]
        exact congrArg Except.ok rounded

/-- A whole number, or only one above zero. -/
def wholeNumber (above : Bool) : String → Except String Binary64 :=
  if above then positive else integer

theorem wholeNumber_eq_ok {above : Bool} (read : wholeNumber above argument = .ok value) :
    ∃ n, Text.wholeNumber? argument = some n ∧ (above = true → 0 < n) ∧
      .ofNat false n = value := by
  cases above with
  | false =>
      obtain ⟨n, whole, rounded⟩ := integer_eq_ok_iff.1 read
      exact ⟨n, whole, nofun, rounded⟩
  | true =>
      replace read : positive argument = .ok value := read
      unfold positive at read
      split at read
      · rename_i given
        split at read
        · cases read
        · rename_i some
          rw [Except.ok.inj read] at given some
          obtain ⟨n, whole, rounded⟩ := integer_eq_ok_iff.1 given
          refine ⟨n, whole, fun _ => Nat.pos_of_ne_zero fun zero => some ?_, rounded⟩
          have isZero : (Binary64.ofNat false 0).isZero = true := by decide +kernel
          rw [← rounded, zero, isZero]
      · cases read

/-! ## Flags and fields -/

/-- The flag that fills a field. -/
theorem fills (puts : ∀ argument request value, read argument = .ok value →
      parse argument = .ok (get (put request value))) :
    Flag.Fills long parse get ⟨short, long, reading name read put, text, shown⟩ := by
  refine .here rfl rfl fun argument request after done => ?_
  split at done
  · rename_i value given
    cases done
    exact puts argument request value given
  · cases done

/-- A flag that puts its argument elsewhere. -/
theorem beside (apart : other ≠ long)
    (keeps : ∀ request value, get (put request value) = get request) :
    Flag.Fills long parse get ⟨short, other, reading name read put, text, shown⟩ := by
  refine .beside apart fun field argument request after held done => ?_
  dsimp only at done
  split at done
  · cases done
    exact (keeps request _).trans held
  · cases done

/-- A switch, which changes something else. -/
theorem besideSwitch {set : Request π → Request π} (apart : other ≠ long)
    (keeps : ∀ request, get (set request) = get request) :
    Flag.Fills long parse get ⟨short, other, .switch set, text, shown⟩ :=
  .beside apart fun _ request held => (keeps request).trans held

/-- The long names of the flags that all commands have. -/
def commonNames : List String := ["generator", "traffic", "framesize", "output"]

/-- The common flags leave the plan alone. -/
theorem common_beside {get : π → α} (apart : long ∉ commonNames) :
    ∀ flag ∈ commonFlags (π := π), flag.Fills long parse fun request => get request.plan := by
  simp only [commonNames, List.mem_cons, not_or, List.not_mem_nil, not_false_eq_true,
    and_true] at apart
  obtain ⟨generator, traffic, framesize, output⟩ := apart
  simp only [commonFlags, List.forall_mem_cons]
  exact ⟨beside (Ne.symm generator) fun _ _ => rfl,
    beside (Ne.symm traffic) fun _ _ => rfl,
    beside (Ne.symm framesize) fun _ _ => rfl,
    beside (Ne.symm output) fun _ _ => rfl, List.forall_mem_nil _⟩

/-- A frame size as it stands in a request. -/
def sizeOption (argument : String) : Except String (Option Binary64) := some <$> integer argument

theorem common_framesize :
    ∀ flag ∈ commonFlags (π := π), flag.Fills "framesize" sizeOption Request.framesize := by
  simp only [commonFlags, List.forall_mem_cons]
  refine ⟨beside (by decide) fun _ _ => rfl, beside (by decide) fun _ _ => rfl,
    fills fun argument request size read => ?_,
    beside (by decide) fun _ _ => rfl, List.forall_mem_nil _⟩
  rw [sizeOption, read]
  rfl

end Request

/-! ## Options that hold whole numbers -/

namespace Test

/-- An option of a test that holds a whole number. -/
structure IntegerOption where
  long : String
  /-- Whether zero is refused. -/
  positive : Bool
  default : Nat
  /-- What the test runs with. -/
  value : Binary64

/-- The options of a test that hold whole numbers. -/
def integers : Test → List IntegerOption
  | .burst options =>
      [⟨"numpkts", false, 100, options.plan.numpkts⟩, ⟨"time", false, 20, options.plan.time⟩,
        ⟨"framerate", false, 100, options.plan.framerate⟩]
  | .continuous options =>
      [⟨"time", true, 20, options.plan.time⟩, ⟨"framerate", false, 0, options.plan.framerate⟩]
  | .throughput options =>
      [⟨"trials", false, 3, options.plan.trials⟩,
        ⟨"duration", true, 20, options.plan.duration⟩]

namespace IntegerOption

variable {given : Option String}

/-- The argument that is given for an option reaches the test as the number it is rounded to,
and without one the test runs with the default. -/
def HandedOn (option : IntegerOption) : Option String → Prop
  | none => option.value = .ofNat false option.default
  | some argument => ∃ n, Text.wholeNumber? argument = some n ∧ (option.positive = true → 0 < n) ∧
      RoundedFrom n option.value

theorem handedOn_of_settled {long : String} {positive : Bool} {default : Nat} {value : Binary64}
    (settled : Flag.Settled (Request.wholeNumber positive) (.ofNat false default) value given) :
    (⟨long, positive, default, value⟩ : IntegerOption).HandedOn given := by
  cases given with
  | none => exact settled
  | some argument =>
      obtain ⟨n, whole, some, rounded⟩ := Request.wholeNumber_eq_ok settled
      exact ⟨n, whole, some, roundedFrom_of_ofNat rounded⟩

/-- Up to `2 ^ 53` a whole number reaches the test as it was written. -/
theorem HandedOn.exact_of_le {option : IntegerOption} {argument : String} {n : Nat}
    (handed : option.HandedOn (some argument)) (whole : Text.wholeNumber? argument = some n)
    (small : n ≤ 2 ^ 53) : option.value.whole? = some (false, n) := by
  obtain ⟨m, whole', -, rounded⟩ := handed
  rw [whole] at whole'
  cases whole'
  exact rounded.exact_of_le small

end IntegerOption

end Test

namespace Command

variable {words : List String} {sorted : Sorted (Request (List Test))} {command : Command}

/-- What sorting leaves in the plan of a request for an option that fills its own field. -/
theorem handedOn_sort {π : Type} {own : List (Flag (Request π))} {start : π}
    {before : Sorted (Request π)} {long : String} {positive : Bool} {default : Nat}
    {value : Binary64} (get : π → Binary64)
    (sorting : Flag.sort (own ++ Request.commonFlags) words { plan := start } = .ok before)
    (apart : long ∉ Request.commonNames)
    (fill : ∀ flag ∈ own,
      flag.Fills long (Request.wholeNumber positive) fun request => get request.plan)
    (starts : get start = .ofNat false default) (ends : get before.request.plan = value) :
    (⟨long, positive, default, value⟩ : Test.IntegerOption).HandedOn
      (Flag.given? (own ++ Request.commonFlags) words long) := by
  apply Test.IntegerOption.handedOn_of_settled
  rw [← starts, ← ends]
  exact Flag.settled_sort
    (List.forall_mem_append.2 ⟨fill, Request.common_beside apart⟩) sorting

theorem handedOn_burst (done : burst.sort words = .ok sorted) :
    ∀ test ∈ sorted.request.plan, ∀ option ∈ test.integers,
      option.HandedOn (given? burst.name words option.long) := by
  obtain ⟨before, sorting, same⟩ := sorted_make done
  rw [same]
  simp only [List.mem_singleton, forall_eq, Test.integers, List.forall_mem_cons]
  refine ⟨handedOn_sort BurstPlan.numpkts sorting (by decide) ?_ (by rw [Request.burstStart]) rfl,
    handedOn_sort BurstPlan.time sorting (by decide) ?_ (by rw [Request.burstStart]) rfl,
    handedOn_sort BurstPlan.framerate sorting (by decide) ?_ (by rw [Request.burstStart]) rfl⟩
  all_goals simp only [Request.burstFlags, List.forall_mem_cons]
  · exact ⟨Request.fills fun _ _ _ read => read, Request.beside (by decide) fun _ _ => rfl,
      Request.beside (by decide) fun _ _ => rfl, List.forall_mem_nil _⟩
  · exact ⟨Request.beside (by decide) fun _ _ => rfl, Request.fills fun _ _ _ read => read,
      Request.beside (by decide) fun _ _ => rfl, List.forall_mem_nil _⟩
  · exact ⟨Request.beside (by decide) fun _ _ => rfl, Request.beside (by decide) fun _ _ => rfl,
      Request.fills fun _ _ _ read => read, List.forall_mem_nil _⟩

theorem handedOn_continuous (done : continuous.sort words = .ok sorted) :
    ∀ test ∈ sorted.request.plan, ∀ option ∈ test.integers,
      option.HandedOn (given? continuous.name words option.long) := by
  obtain ⟨before, sorting, same⟩ := sorted_make done
  rw [same]
  simp only [List.mem_singleton, forall_eq, Test.integers, List.forall_mem_cons]
  refine ⟨handedOn_sort ContinuousPlan.time sorting (by decide) ?_
      (by rw [Request.continuousStart]) rfl,
    handedOn_sort ContinuousPlan.framerate sorting (by decide) ?_
      (by rw [Request.continuousStart]) rfl⟩
  all_goals simp only [Request.continuousFlags, List.forall_mem_cons]
  · exact ⟨Request.fills fun _ _ _ read => read, Request.beside (by decide) fun _ _ => rfl,
      Request.besideSwitch (by decide) fun _ => rfl, List.forall_mem_nil _⟩
  · exact ⟨Request.beside (by decide) fun _ _ => rfl, Request.fills fun _ _ _ read => read,
      Request.besideSwitch (by decide) fun _ => rfl, List.forall_mem_nil _⟩

theorem handedOn_throughput (done : throughput.sort words = .ok sorted) :
    ∀ test ∈ sorted.request.plan, ∀ option ∈ test.integers,
      option.HandedOn (given? throughput.name words option.long) := by
  obtain ⟨before, sorting, same⟩ := sorted_make done
  rw [same]
  simp only [List.mem_singleton, forall_eq, Test.integers, List.forall_mem_cons]
  refine ⟨handedOn_sort ThroughputPlan.trials sorting (by decide) ?_
      (by rw [Request.throughputStart]) rfl,
    handedOn_sort ThroughputPlan.duration sorting (by decide) ?_
      (by rw [Request.throughputStart]) rfl⟩
  all_goals simp only [Request.throughputFlags, List.forall_mem_cons]
  · exact ⟨Request.fills fun _ _ _ read => read, Request.beside (by decide) fun _ _ => rfl,
      Request.beside (by decide) fun _ _ => rfl, Request.besideSwitch (by decide) fun _ => rfl,
      List.forall_mem_nil _⟩
  · exact ⟨Request.beside (by decide) fun _ _ => rfl, Request.fills fun _ _ _ read => read,
      Request.beside (by decide) fun _ _ => rfl, Request.besideSwitch (by decide) fun _ => rfl,
      List.forall_mem_nil _⟩

/-- The command `all` has no option of a test. -/
theorem handedOn_all (done : all.sort words = .ok sorted) :
    ∀ test ∈ sorted.request.plan, ∀ option ∈ test.integers,
      option.HandedOn (given? all.name words option.long) := by
  obtain ⟨before, sorting, same⟩ := sorted_make done
  rw [List.nil_append] at sorting
  have absent {long : String} (apart : long ∉ Request.commonNames) :
      given? all.name words long = none := by
    refine Flag.given?_eq_none (fun flag member named => apart ?_) sorting
    have names : (Request.commonFlags (π := Unit)).map Flag.long = Request.commonNames := rfl
    rw [← names, ← named]
    exact List.mem_map_of_mem member
  have named : ∀ test ∈ allTests, ∀ option ∈ test.integers, option.long ∉ Request.commonNames := by
    simp only [allTests, List.forall_mem_cons, Test.integers]
    decide
  have defaults : ∀ test ∈ allTests, ∀ option ∈ test.integers,
      option.value = .ofNat false option.default := by
    simp [allTests, Test.integers, BurstOptions.plan, ContinuousOptions.plan,
      ThroughputOptions.plan]
  intro test planned option listed
  rw [same] at planned
  rw [absent (named test planned option listed)]
  exact defaults test planned option listed

/-- **The options of a test.**  Each reaches the tests of its command as the number that its
argument is rounded to. -/
theorem handedOn_of_mem (listed : command ∈ list) (done : command.sort words = .ok sorted) :
    ∀ test ∈ sorted.request.plan, ∀ option ∈ test.integers,
      option.HandedOn (given? command.name words option.long) := by
  rcases eq_of_mem listed with rfl | rfl | rfl | rfl
  · exact handedOn_burst done
  · exact handedOn_continuous done
  · exact handedOn_throughput done
  · exact handedOn_all done

theorem framesize_make {π : Type} {name description : String} {own : List (Flag (Request π))}
    {start : π} {tests : π → List Test}
    (done : (make name description own start tests).sort words = .ok sorted)
    (ownFill : ∀ flag ∈ own, flag.Fills "framesize" Request.sizeOption Request.framesize) :
    Flag.Settled Request.sizeOption none sorted.request.framesize
      (Flag.given? (own ++ Request.commonFlags) words "framesize") := by
  obtain ⟨before, sorting, same⟩ := sorted_make done
  rw [same]
  exact Flag.settled_sort (List.forall_mem_append.2 ⟨ownFill, Request.common_framesize⟩) sorting

theorem framesize_of_mem (listed : command ∈ list) (done : command.sort words = .ok sorted) :
    Flag.Settled Request.sizeOption none sorted.request.framesize
      (given? command.name words "framesize") := by
  rcases eq_of_mem listed with rfl | rfl | rfl | rfl
  · refine framesize_make done ?_
    simp only [Request.burstFlags, List.forall_mem_cons]
    exact ⟨Request.beside (by decide) fun _ _ => rfl, Request.beside (by decide) fun _ _ => rfl,
      Request.beside (by decide) fun _ _ => rfl, List.forall_mem_nil _⟩
  · refine framesize_make done ?_
    simp only [Request.continuousFlags, List.forall_mem_cons]
    exact ⟨Request.beside (by decide) fun _ _ => rfl, Request.beside (by decide) fun _ _ => rfl,
      Request.besideSwitch (by decide) fun _ => rfl, List.forall_mem_nil _⟩
  · refine framesize_make done ?_
    simp only [Request.throughputFlags, List.forall_mem_cons]
    exact ⟨Request.beside (by decide) fun _ _ => rfl, Request.beside (by decide) fun _ _ => rfl,
      Request.beside (by decide) fun _ _ => rfl, Request.besideSwitch (by decide) fun _ => rfl,
      List.forall_mem_nil _⟩
  · exact framesize_make done (List.forall_mem_nil _)

end Command

/-! ## Frame sizes -/

namespace FlowConfig

variable {config merged : FlowConfig} {size : Binary64}

/-- A frame size that is merged in stands in the merged configuration. -/
theorem nodeAt?_merge_ofFrameSize (done : config.merge (ofFrameSize size) = .ok merged) :
    merged.nodeAt? sizePath = some (.scalar (.number size)) := by
  have layered {inner lower : FlowConfig}
      (inside : inner.own? "framesize" = some (.scalar (.number size))) :
      (lower.put "l2" (.mapping inner)).nodeAt? sizePath = some (.scalar (.number size)) := by
    rw [sizePath, nodeAt?, own?_put (by decide), if_pos rfl]
    simp [nodeAt?, inside]
  rw [merge, mergeAt, ofFrameSize, mergeInto] at done
  split at done
  · split at done
    · rename_i below merging
      rw [mergeInto] at done
      cases done
      rw [mergeInto] at merging
      split at merging
      · cases merging
      · rw [mergeInto] at merging
        cases merging
        exact layered (by rw [own?_put (by decide), if_pos rfl])
    · cases done
  · rw [mergeInto] at done
    cases done
    exact layered rfl

/-- A configuration has the frame size that an argument writes, rounded. -/
def SizedBy (argument : String) (config : FlowConfig) : Prop :=
  ∃ n size, Text.wholeNumber? argument = some n ∧ RoundedFrom n size ∧
    config.nodeAt? sizePath = some (.scalar (.number size))

end FlowConfig

theorem Request.sizedBy_override {π : Type} {request : Request π} {flow : Option FlowConfig}
    {argument : String} (given : sizeOption argument = .ok request.framesize)
    (done : request.override = .ok flow) :
    ∃ config, flow = some config ∧ config.SizedBy argument := by
  rw [sizeOption] at given
  cases read : integer argument with
  | error reason =>
      rw [read] at given
      cases given
  | ok size =>
      obtain ⟨n, whole, rounded⟩ := integer_eq_ok_iff.1 read
      rw [read] at given
      rw [override, ← Except.ok.inj given] at done
      dsimp only at done
      split at done
      · rename_i merged merging
        cases done
        exact ⟨merged, rfl, n, size, whole, roundedFrom_of_ofNat rounded,
          FlowConfig.nodeAt?_merge_ofFrameSize merging⟩
      · cases done

theorem Settings.sizedBy_load {environment : Environment} {read : FileReader}
    {bundledFile argument : String} {settings : Settings}
    (loaded : load environment read bundledFile = .ok settings)
    (set : environment.nonEmpty? frameSizeVariable = some argument) :
    settings.defaults.SizedBy argument := by
  cases chosen : chooseDefaults environment read bundledFile with
  | error fault =>
      rw [load, chosen] at loaded
      cases loaded
  | ok pair =>
      have done := withFrameSize_of_load loaded chosen
      rw [withFrameSize, set] at done
      dsimp only at done
      split at done
      · cases done
      · rename_i n whole
        split at done
        · rename_i merged merging
          rw [← Except.ok.inj done]
          exact ⟨n, _, whole, roundedFrom_of_ofNat rfl,
            FlowConfig.nodeAt?_merge_ofFrameSize merging⟩
        · cases done

/-! ## Command lines -/

namespace CommandLine

variable {words : List String} {request : Request (List Test)}

/-- **Whole numbers reach the generator rounded.**  In a run, each option that holds a whole
number reaches its test as the number that its last argument is rounded to, and as its default
where it is not given.  The frame sizes of the command line and of the environment stand rounded
in the override and in the defaults that the generator is given. -/
theorem integers_handed_on (host : Host) (asked : Invocation.ofWords words = .run request) :
    (∀ test ∈ request.plan, ∀ option ∈ test.integers,
      option.HandedOn (Invocation.given? words option.long)) ∧
    (∀ argument override, Invocation.given? words "framesize" = some argument →
      request.override = .ok override →
        ∃ config, override = some config ∧ config.SizedBy argument) ∧
    ∀ argument settings,
      host.extended.nonEmpty? Settings.frameSizeVariable = some argument →
        Settings.load host.extended host.read host.bundledFile = .ok settings →
          settings.defaults.SizedBy argument := by
  obtain ⟨command, listed, unknown, sorted, sorting, rfl, same⟩ := Invocation.given?_of_run asked
  rw [same]
  refine ⟨Command.handedOn_of_mem listed sorting, ?_, ?_⟩
  · intro argument override given done
    have settled := Command.framesize_of_mem listed sorting
    rw [given] at settled
    exact Request.sizedBy_override settled done
  · exact fun argument settings set loaded => Settings.sizedBy_load loaded set

/-- The request of a command line that asks for a run. -/
def request? : Invocation → Option (Request (List Test))
  | .run request => some request
  | _ => none

theorem request?_eq_some {invocation : Invocation} (asks : request? invocation = some request) :
    invocation = .run request := by
  cases invocation with
  | run asked => exact congrArg _ (Option.some.inj asks)
  | answer | guide | refuse => cases asks

theorem burst_of_names (names : request.plan.map Test.name = ["burst"]) :
    ∃ options, request.plan = [.burst options] := by
  obtain ⟨test, planned, named⟩ := List.map_eq_singleton_iff.1 names
  cases test with
  | burst options => exact ⟨options, planned⟩
  | continuous options =>
      have apart : "continuous" ≠ "burst" := by decide
      exact absurd named apart
  | throughput options =>
      have apart : "throughput" ≠ "burst" := by decide
      exact absurd named apart

theorem exists_of_isOk {ε α : Type} {result : Except ε α} (ok : result.isOk = true) :
    ∃ value, result = .ok value := by
  cases result with
  | error error => cases ok
  | ok value => exact ⟨value, rfl⟩

/-- A burst that is given some of its options, one of them twice, and two frame sizes. -/
theorem integers_handed_on_burst :
    let host : Host :=
      ⟨[("TRAFFICGEN_FRAMESIZE", "128")], {}, fun _ => .error "no such file", "defaults.json"⟩
    let words := ["burst", "--numpkts", "12", "-t1", "--time=5", "--framesize", "64"]
    ∃ request options settings, Invocation.ofWords words = .run request ∧
      request.plan = [.burst options] ∧ options.plan.numpkts.whole? = some (false, 12) ∧
      options.plan.time.whole? = some (false, 5) ∧ options.plan.framerate = .ofNat false 100 ∧
      (∃ config, request.override = .ok (some config) ∧ config.SizedBy "64") ∧
      Settings.load host.extended host.read host.bundledFile = .ok settings ∧
      settings.defaults.SizedBy "128" := by
  intro host words
  have runs : (request? (Invocation.ofWords words)).map (fun request =>
      (request.plan.map Test.name, request.override.isOk)) = some (["burst"], true) := by
    decide +kernel
  have loads : (Settings.load host.extended host.read host.bundledFile).isOk = true := by
    decide +kernel
  obtain ⟨request, asks, facts⟩ := Option.map_eq_some_iff.1 runs
  obtain ⟨names, merges⟩ := Prod.mk.inj facts
  have asked := request?_eq_some asks
  obtain ⟨burst, planned⟩ := burst_of_names names
  obtain ⟨flow, overridden⟩ := exists_of_isOk merges
  obtain ⟨settings, loaded⟩ := exists_of_isOk loads
  obtain ⟨options, sized, settled⟩ := integers_handed_on host asked
  rw [planned] at options
  simp only [List.mem_singleton, forall_eq, Test.integers, List.forall_mem_cons] at options
  obtain ⟨numpkts, time, framerate⟩ := options
  have given : Invocation.given? words "numpkts" = some "12" ∧
      Invocation.given? words "time" = some "5" ∧ Invocation.given? words "framerate" = none ∧
      Invocation.given? words "framesize" = some "64" := by
    decide +kernel
  obtain ⟨twelve, five, nothing, sixtyFour⟩ := given
  rw [twelve] at numpkts
  rw [five] at time
  rw [nothing] at framerate
  obtain ⟨config, rfl, sixtyFour⟩ := sized _ _ sixtyFour overridden
  exact ⟨request, burst, settings, asked, planned,
    numpkts.exact_of_le (by decide +kernel) (by decide),
    time.exact_of_le (by decide +kernel) (by decide), framerate,
    ⟨config, overridden, sixtyFour⟩, loaded, settled _ _ rfl loaded⟩

/-- A count that the format does not hold reaches the test as another one. -/
theorem large_count_changed :
    ∃ request options,
      Invocation.ofWords ["burst", "--numpkts", "9007199254740993"] = .run request ∧
      request.plan = [.burst options] ∧
      options.plan.numpkts.whole? = some (false, 9007199254740992) := by
  have changed : (request? (Invocation.ofWords ["burst", "--numpkts", "9007199254740993"])).map
      (fun request => (request.plan.map Test.name,
        request.plan.flatMap fun test => test.integers.map fun option => option.value.whole?)) =
      some (["burst"], [some (false, 9007199254740992), some (false, 20), some (false, 100)]) := by
    decide +kernel
  obtain ⟨request, asks, facts⟩ := Option.map_eq_some_iff.1 changed
  obtain ⟨names, values⟩ := Prod.mk.inj facts
  obtain ⟨options, planned⟩ := burst_of_names names
  rw [planned] at values
  exact ⟨request, options, request?_eq_some asks, planned, (List.cons.inj values).1⟩

end CommandLine

end ManualTraffic
