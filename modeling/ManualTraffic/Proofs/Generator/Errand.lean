/-
# ManualTraffic.Proofs.Generator.Errand -- what a test does, from what it is given

A test is an errand for the operator: what to send, which statistics to bring back, and
what is checked before.  The checks are made in one order, each `Refusal` stands behind
the ones before it, and an errand is refused for one reason or is `Prepared`
(`refused_or_prepared`).

The three tests differ in their errands and in the figures they make of the answers, and
in nothing else: each one `Carries` its errand (`burst_carries`, `continuous_carries`,
`throughput_carries`).  That the figures can be made of whatever the operator confirmed
is part of it, for one value comes back for each statistic and the duration was checked
before.
-/
import ManualTraffic.Generator
import ManualTraffic.Proofs.Operator.Collection

namespace ManualTraffic

set_option autoImplicit false

/-! ## Frame sizes -/

namespace FlowConfig

variable {config : FlowConfig} {size : Binary64}

/-- There is a finite number at `l2.framesize`, each key read through the layers. -/
def HasFrameSize (config : FlowConfig) (size : Binary64) : Prop :=
  ∃ l2, config.read "l2" = .mapping l2 ∧
    l2.read "framesize" = .scalar (.number size) ∧ size.isFinite = true

/-- A configuration has a frame size, or it lacks the mapping, or the number in it. -/
theorem sized_or_unsized (config : FlowConfig) :
    (∃ size, config.HasFrameSize size) ∨ (∀ l2, config.read "l2" ≠ .mapping l2) ∨
      ∃ l2, config.read "l2" = .mapping l2 ∧
        ∀ size, l2.read "framesize" = .scalar (.number size) → size.isFinite = false := by
  by_cases layered : ∃ l2, config.read "l2" = .mapping l2
  · obtain ⟨l2, atL2⟩ := layered
    by_cases sized : ∃ size, l2.read "framesize" = .scalar (.number size) ∧ size.isFinite = true
    · obtain ⟨size, atSize, finite⟩ := sized
      exact .inl ⟨size, l2, atL2, atSize, finite⟩
    · refine .inr (.inr ⟨l2, atL2, fun size atSize => ?_⟩)
      cases finite : size.isFinite with
      | false => rfl
      | true => exact absurd ⟨size, atSize, finite⟩ sized
  · exact .inr (.inl fun l2 atL2 => layered ⟨l2, atL2⟩)

theorem frameSize_of_has (has : config.HasFrameSize size) : config.frameSize = .ok size := by
  obtain ⟨l2, atL2, atSize, finite⟩ := has
  simp only [frameSize, atL2, atSize, finite, if_true]

theorem frameSize_of_no_l2 (missing : ∀ l2, config.read "l2" ≠ .mapping l2) :
    config.frameSize = .error .noLinkLayer := by
  unfold frameSize
  split
  · rename_i l2 atL2
    exact absurd atL2 (missing l2)
  · rfl

theorem frameSize_of_no_size {l2 : FlowConfig} (atL2 : config.read "l2" = .mapping l2)
    (missing : ∀ size, l2.read "framesize" = .scalar (.number size) → size.isFinite = false) :
    config.frameSize = .error .noFrameSize := by
  simp only [frameSize, atL2]
  split
  · rename_i size atSize
    rw [missing size atSize]
    rfl
  · rfl

end FlowConfig

/-! ## Steps at a desk -/

namespace Desk

variable {σ α : Type} {desk : Desk σ}

/-- A desk after a debug line. -/
def noted (desk : Desk σ) (message : String) (data : Option FlowConfig) : Desk σ :=
  { desk with journal := desk.journal.note ⟨.debug, message, data⟩ }

theorem debug_eq (message : String) (data : Option FlowConfig) :
    debug message data desk = .ok () (desk.noted message data) := rfl

theorem check_of_ok {checked : Except Fault α} {value : α} (passed : checked = .ok value) :
    check checked desk = .ok value desk := by
  rw [passed]
  rfl

theorem check_of_error {checked : Except Fault α} {fault : Fault}
    (failed : checked = .error fault) :
    check checked desk = .error fault desk := by
  rw [failed]
  rfl

variable {dialogue : EStateM Fault σ α} {after : σ}

theorem atConsole_of_ok (desk : Desk σ) {value : α}
    (done : dialogue desk.console = .ok value after) :
    atConsole dialogue desk = .ok value { desk with console := after } := by
  simp only [atConsole, done]

theorem atConsole_of_error (desk : Desk σ) {fault : Fault}
    (failed : dialogue desk.console = .error fault after) :
    atConsole dialogue desk = .error fault { desk with console := after } := by
  simp only [atConsole, failed]

end Desk

namespace Generator

/-! ## Errands -/

/-- What the operator is asked for in a test, and what is checked before. -/
structure Errand where
  kind : String
  /-- The text about the stream. -/
  stream : String
  stats : List String
  /-- The duration, in the tests that check it. -/
  duration : Option Binary64
  override : Option FlowConfig

/-- Tells the operator what an errand is and asks for its statistics. -/
def Errand.announce {σ : Type} [Console σ] (errand : Errand) (flow : FlowConfig) :
    EStateM Fault σ (List Binary64) :=
  Dialogue.announce errand.kind errand.stream flow errand.stats

/-- What the operator is told of an errand. -/
def Errand.told (errand : Errand) (flow : FlowConfig) : Shown :=
  .print (Dialogue.announcement errand.kind errand.stream flow)

/-- The duration of an errand is finite and above zero, where it is checked. -/
def Errand.Lasts (errand : Errand) : Prop :=
  ∀ duration, errand.duration = some duration → duration.isPositive = true

/-- Why an errand is refused before the operator is told of it. -/
inductive Refusal (generator : Generator) (errand : Errand) : Fault → Prop where
  | duration {given : Binary64} (checked : errand.duration = some given)
      (bad : given.isPositive = false) : Refusal generator errand (.badDuration (some given))
  | conflict {override : FlowConfig} {conflict : MergeConflict} (lasts : errand.Lasts)
      (given : errand.override = some override)
      (conflicts : generator.defaults.merge override = .error conflict) :
      Refusal generator errand (.mergeConflict conflict.path)
  | linkLayer {flow : FlowConfig} (lasts : errand.Lasts)
      (merged : generator.effective errand.override = .ok flow)
      (missing : ∀ l2, flow.read "l2" ≠ .mapping l2) : Refusal generator errand .noLinkLayer
  | frameSize {flow l2 : FlowConfig} (lasts : errand.Lasts)
      (merged : generator.effective errand.override = .ok flow)
      (atL2 : flow.read "l2" = .mapping l2)
      (missing : ∀ size, l2.read "framesize" = .scalar (.number size) → size.isFinite = false) :
      Refusal generator errand .noFrameSize

/-- An errand that passes the checks, with its configuration and its frame size. -/
structure Prepared (generator : Generator) (errand : Errand) (flow : FlowConfig)
    (framesize : Binary64) : Prop where
  lasts : errand.Lasts
  merged : generator.effective errand.override = .ok flow
  sized : flow.HasFrameSize framesize

variable {generator : Generator} {errand : Errand} {flow : FlowConfig} {framesize : Binary64}
  {fault : Fault}

theorem effective_of_conflict {override : FlowConfig} {conflict : MergeConflict}
    (conflicts : generator.defaults.merge override = .error conflict) :
    generator.effective (some override) = .error (.mergeConflict conflict.path) := by
  simp only [effective, conflicts]

theorem merge_of_effective {override : FlowConfig}
    (merged : generator.effective (some override) = .ok flow) :
    generator.defaults.merge override = .ok flow := by
  cases done : generator.defaults.merge override with
  | ok both =>
      simp only [effective, done] at merged
      cases merged
      rfl
  | error conflict =>
      rw [effective_of_conflict done] at merged
      cases merged

/-- A configuration fails to come about only by a conflict. -/
theorem conflict_of_effective {override : Option FlowConfig}
    (failed : generator.effective override = .error fault) :
    ∃ given conflict, override = some given ∧
      generator.defaults.merge given = .error conflict ∧ fault = .mergeConflict conflict.path := by
  cases override with
  | none => cases failed
  | some given =>
      cases merges : generator.defaults.merge given with
      | ok merged =>
          simp only [effective, merges] at failed
          cases failed
      | error conflict =>
          rw [effective_of_conflict merges] at failed
          cases failed
          exact ⟨given, conflict, rfl, merges, rfl⟩

section

variable {other : Generator} {override override' : Option FlowConfig}

/-- A test sees its generator and its override only in the configuration they come to. -/
theorem resolve_of_effective {σ : Type}
    (same : generator.effective override = other.effective override') :
    (generator.resolve override : EStateM Fault (Desk σ) _) = other.resolve override' := by
  unfold resolve
  rw [same]

variable {σ : Type} [Console σ] {numpkts time framerate : Binary64}

theorem burst_of_effective (same : generator.effective override = other.effective override') :
    (generator.burst ⟨override, numpkts, time, framerate⟩ : EStateM Fault (Desk σ) _) =
      other.burst ⟨override', numpkts, time, framerate⟩ := by
  unfold burst
  rw [resolve_of_effective same]

theorem measure_of_effective {kind stream : String} {duration : Binary64}
    (same : generator.effective override = other.effective override') :
    (generator.measure kind stream override duration : EStateM Fault (Desk σ) _) =
      other.measure kind stream override' duration := by
  unfold measure
  rw [resolve_of_effective same]

end

/-- An errand is refused, or it passes all checks. -/
theorem refused_or_prepared (generator : Generator) (errand : Errand) :
    (∃ fault, Refusal generator errand fault) ∨
      ∃ flow framesize, Prepared generator errand flow framesize := by
  by_cases bad : ∃ given, errand.duration = some given ∧ given.isPositive = false
  · obtain ⟨given, checked, bad⟩ := bad
    exact .inl ⟨_, .duration checked bad⟩
  have lasts : errand.Lasts := by
    intro duration checked
    cases positive : duration.isPositive with
    | true => rfl
    | false => exact absurd ⟨duration, checked, positive⟩ bad
  cases merged : generator.effective errand.override with
  | error fault =>
      obtain ⟨override, conflict, given, conflicts, -⟩ := conflict_of_effective merged
      exact .inl ⟨_, .conflict lasts given conflicts⟩
  | ok flow =>
      rcases flow.sized_or_unsized with ⟨size, sized⟩ | missing | ⟨l2, atL2, missing⟩
      · exact .inr ⟨flow, size, lasts, merged, sized⟩
      · exact .inl ⟨_, .linkLayer lasts merged missing⟩
      · exact .inl ⟨_, .frameSize lasts merged atL2 missing⟩

/-- A duration that is refused is refused before all else. -/
theorem Refusal.eq_badDuration {given : Binary64} (refusal : Refusal generator errand fault)
    (checked : errand.duration = some given) (bad : given.isPositive = false) :
    fault = .badDuration (some given) := by
  have short : ¬errand.Lasts := fun lasts => by simp [lasts given checked] at bad
  cases refusal with
  | duration checked' bad' =>
      rw [checked] at checked'
      cases checked'
      rfl
  | conflict lasts given conflicts => exact absurd lasts short
  | linkLayer lasts merged missing => exact absurd lasts short
  | frameSize lasts merged atL2 missing => exact absurd lasts short

/-! ## Figures by name -/

/-- What a burst returns, from the value of each statistic. -/
def burstFigures (numpkts framesize : Binary64) (value : String → Binary64) : BurstOutcome where
  framesRx := value "frames rx"
  payloadErrors := value "payload errors"
  sequenceErrors := value "sequence errors"
  results :=
    [(.txFrames, numpkts), (.rxFrames, value "frames rx"), (.txBytes, framesize * numpkts),
      (.rxBytes, framesize * value "frames rx"), (.payloadErr, value "payload errors"),
      (.seqErr, value "sequence errors")]

/-- What a run over a duration returns, from the value of each statistic. -/
def runFigures (duration framesize : Binary64) (value : String → Binary64) : Results :=
  [(.throughputTxFps, value "frames tx" / duration),
    (.throughputRxFps, value "frames rx" / duration),
    (.throughputTxMbps, value "frames tx" * framesize / duration),
    (.throughputRxMbps, value "frames rx" * framesize / duration),
    (.throughputTxPercent, .zero), (.throughputRxPercent, .zero),
    (.minLatencyNs, value "min latency"), (.maxLatencyNs, value "max latency"),
    (.avgLatencyNs, value "avg latency")]

/-! ## Carrying out an errand -/

/-- A test that does an errand: it fails without a word to the operator where the errand
is refused, and else announces it, passes on a failure, and makes its figures of the
value of each statistic. -/
structure Carries {σ α : Type} [Console σ] (generator : Generator) (errand : Errand)
    (figures : Binary64 → (String → Binary64) → α) (test : EStateM Fault (Desk σ) α) : Prop where
  refused : ∀ (desk : Desk σ) {fault : Fault}, Refusal generator errand fault →
    ∃ journal, test desk = .error fault { desk with journal }
  answered : ∀ (desk : Desk σ) {flow : FlowConfig} {framesize : Binary64}
    {value : String → Binary64} {after : σ}, Prepared generator errand flow framesize →
    errand.announce flow desk.console = .ok (errand.stats.map value) after →
    ∃ journal, test desk = .ok (figures framesize value) ⟨after, journal⟩
  unanswered : ∀ (desk : Desk σ) {flow : FlowConfig} {framesize : Binary64} {fault : Fault}
    {after : σ}, Prepared generator errand flow framesize →
    errand.announce flow desk.console = .error fault after →
    ∃ journal, test desk = .error fault ⟨after, journal⟩

section

variable {σ : Type}

theorem resolve_of_unsized (desk : Desk σ) {override : Option FlowConfig}
    (merged : generator.effective override = .ok flow) (failed : flow.frameSize = .error fault) :
    generator.resolve override desk = .error fault (desk.noted "traffic config" (some flow)) := by
  rw [resolve, bind_of_ok (Desk.check_of_ok merged), bind_of_ok (Desk.debug_eq _ _),
    bind_of_error (Desk.check_of_error failed)]

theorem resolve_of_refusal (desk : Desk σ) (lasts : errand.Lasts)
    (refusal : Refusal generator errand fault) :
    ∃ journal, generator.resolve errand.override desk = .error fault { desk with journal } := by
  cases refusal with
  | duration checked bad => exact absurd (lasts _ checked) (by simp [bad])
  | conflict _ given conflicts =>
      refine ⟨desk.journal, ?_⟩
      rw [given, resolve, bind_of_error (Desk.check_of_error (effective_of_conflict conflicts))]
  | linkLayer _ merged missing =>
      exact ⟨_, resolve_of_unsized desk merged (FlowConfig.frameSize_of_no_l2 missing)⟩
  | frameSize _ merged atL2 missing =>
      exact ⟨_, resolve_of_unsized desk merged (FlowConfig.frameSize_of_no_size atL2 missing)⟩

theorem resolve_of_prepared (desk : Desk σ) (prepared : Prepared generator errand flow framesize) :
    generator.resolve errand.override desk =
      .ok (flow, framesize) (desk.noted "traffic config" (some flow)) := by
  rw [resolve, bind_of_ok (Desk.check_of_ok prepared.merged), bind_of_ok (Desk.debug_eq _ _),
    bind_of_ok (Desk.check_of_ok (FlowConfig.frameSize_of_has prepared.sized))]
  rfl

variable [Console σ]

/-! ## Bursts -/

theorem burstStats_nodup : Results.burstStats.Nodup := by decide

/-- The errand of a burst; its time is not checked. -/
def burstErrand (plan : BurstPlan) : Errand where
  kind := "burst"
  stream := plan.numpkts.text ++ "pkts, " ++ plan.time.text ++ "mS"
  stats := Results.burstStats
  duration := none
  override := plan.flow

theorem lasts_burstErrand (plan : BurstPlan) : (burstErrand plan).Lasts :=
  fun _ checked => nomatch checked

/-- A desk at which a burst is announced. -/
def burstNoted (desk : Desk σ) (plan : BurstPlan) (flow : FlowConfig) : Desk σ :=
  (desk.noted "traffic config" (some flow)).noted
    ("burst: " ++ plan.numpkts.text ++ " packets at " ++ plan.framerate.text ++ " fps") none

theorem burst_carries (generator : Generator) (plan : BurstPlan) :
    Carries generator (burstErrand plan) (burstFigures plan.numpkts)
      (generator.burst plan : EStateM Fault (Desk σ) BurstOutcome) where
  refused desk fault refusal := by
    obtain ⟨journal, failed⟩ := resolve_of_refusal desk (lasts_burstErrand plan) refusal
    exact ⟨journal, bind_of_error failed⟩
  answered desk flow framesize value after prepared returned := by
    have resolved : generator.resolve plan.flow desk = _ := resolve_of_prepared desk prepared
    have announced := Desk.atConsole_of_ok (burstNoted desk plan flow) returned
    refine ⟨(burstNoted desk plan flow).journal, ?_⟩
    rw [burst, bind_of_ok resolved]
    exact (bind_of_ok (Desk.debug_eq _ _)).trans (bind_of_ok announced)
  unanswered desk flow framesize fault after prepared failed := by
    have resolved : generator.resolve plan.flow desk = _ := resolve_of_prepared desk prepared
    have announced := Desk.atConsole_of_error (burstNoted desk plan flow) failed
    refine ⟨(burstNoted desk plan flow).journal, ?_⟩
    rw [burst, bind_of_ok resolved]
    exact (bind_of_ok (Desk.debug_eq _ _)).trans (bind_of_error announced)

/-! ## Runs over a duration -/

theorem throughputStats_nodup : Results.throughputStats.Nodup := by decide

/-- The errand of a run over a duration. -/
def runErrand (kind stream : String) (override : Option FlowConfig) (duration : Binary64) :
    Errand where
  kind := kind
  stream := stream
  stats := Results.throughputStats
  duration := some duration
  override := override

theorem positiveDuration_of_positive {duration : Binary64} (positive : duration.isPositive = true) :
    Results.positiveDuration (some duration) = .ok duration := by
  simp only [Results.positiveDuration, positive, if_true]

theorem positiveDuration_of_not {duration : Binary64} (bad : duration.isPositive = false) :
    Results.positiveDuration (some duration) = .error (.badDuration (some duration)) := by
  simp only [Results.positiveDuration, bad, Bool.false_eq_true, if_false]

theorem ofThroughput_of_positive {duration : Binary64} (positive : duration.isPositive = true)
    (framesize : Binary64) (value : String → Binary64) :
    Results.ofThroughput framesize (some duration) (Results.throughputStats.map value) =
      .ok (runFigures duration framesize value) := by
  simp only [Results.throughputStats, List.map_cons, List.map_nil, Results.ofThroughput,
    positiveDuration_of_positive positive, runFigures]

/-- A run whose errand passes the checks goes on with the announcement. -/
theorem measure_of_prepared (desk : Desk σ) {kind stream : String} {override : Option FlowConfig}
    {duration : Binary64}
    (prepared : Prepared generator (runErrand kind stream override duration) flow framesize) :
    generator.measure kind stream override duration desk =
      (do
        let answers ←
          Desk.atConsole (Dialogue.announce kind stream flow Results.throughputStats)
        Desk.check (Results.ofThroughput framesize (some duration) answers))
        (desk.noted "traffic config" (some flow)) := by
  have positive : duration.isPositive = true := prepared.lasts duration rfl
  have resolved : generator.resolve override desk = _ := resolve_of_prepared desk prepared
  rw [measure, bind_of_ok (Desk.check_of_ok (positiveDuration_of_positive positive)),
    bind_of_ok resolved]

theorem measure_carries (generator : Generator) (kind stream : String)
    (override : Option FlowConfig) (duration : Binary64) :
    Carries generator (runErrand kind stream override duration) (runFigures duration)
      (generator.measure kind stream override duration : EStateM Fault (Desk σ) Results) where
  refused desk fault refusal := by
    cases positive : duration.isPositive with
    | true =>
        have lasts : (runErrand kind stream override duration).Lasts := by
          intro given checked
          cases checked
          exact positive
        obtain ⟨journal, failed⟩ := resolve_of_refusal desk lasts refusal
        refine ⟨journal, ?_⟩
        rw [measure, bind_of_ok (Desk.check_of_ok (positiveDuration_of_positive positive))]
        exact bind_of_error failed
    | false =>
        obtain rfl := refusal.eq_badDuration rfl positive
        refine ⟨desk.journal, ?_⟩
        rw [measure, bind_of_error (Desk.check_of_error (positiveDuration_of_not positive))]
  answered desk flow framesize value after prepared returned := by
    have announced := Desk.atConsole_of_ok (desk.noted "traffic config" (some flow)) returned
    have figures := ofThroughput_of_positive (prepared.lasts duration rfl) framesize value
    refine ⟨(desk.noted "traffic config" (some flow)).journal, ?_⟩
    rw [measure_of_prepared desk prepared]
    exact (bind_of_ok announced).trans (Desk.check_of_ok figures)
  unanswered desk flow framesize fault after prepared failed := by
    have announced := Desk.atConsole_of_error (desk.noted "traffic config" (some flow)) failed
    refine ⟨(desk.noted "traffic config" (some flow)).journal, ?_⟩
    rw [measure_of_prepared desk prepared]
    exact bind_of_error announced

/-- The errand of a continuous flow. -/
def continuousErrand (plan : ContinuousPlan) : Errand :=
  runErrand "continuous"
    (plan.time.text ++ "mS, " ++ plan.framerate.text ++ "mpps, multistream " ++
      (if plan.multistream then "true" else "false"))
    plan.flow plan.time

/-- The errand of a throughput test. -/
def throughputErrand (plan : ThroughputPlan) : Errand :=
  runErrand "throughput"
    (plan.trials.text ++ " trials, " ++ plan.duration.text ++ " seconds iterations, " ++
      plan.lossrate.fixed 6 ++ " packet loss, multistream " ++
      (if plan.multistream then "enabled" else "disabled"))
    plan.flow plan.duration

theorem continuous_carries (generator : Generator) (plan : ContinuousPlan) :
    Carries generator (continuousErrand plan) (runFigures plan.time)
      (generator.continuous plan : EStateM Fault (Desk σ) Results) :=
  measure_carries generator _ _ _ _

theorem throughput_carries (generator : Generator) (plan : ThroughputPlan) :
    Carries generator (throughputErrand plan) (runFigures plan.duration)
      (generator.throughput plan : EStateM Fault (Desk σ) Results) :=
  measure_carries generator _ _ _ _

/-! ## On any console -/

/-- How a test that carries an errand goes: the errand is refused and the console left
alone, or the errand is announced, and the test ends as the dialogues end. -/
inductive Carried {α : Type} (generator : Generator) (errand : Errand)
    (figures : Binary64 → (String → Binary64) → α) (desk : Desk σ) :
    EStateM.Result Fault (Desk σ) α → Prop where
  | refused {fault : Fault} {journal : Journal FlowConfig}
      (refusal : Refusal generator errand fault) :
      Carried generator errand figures desk (.error fault { desk with journal })
  | answered {flow : FlowConfig} {framesize : Binary64} {value : String → Binary64} {after : σ}
      {journal : Journal FlowConfig} (prepared : Prepared generator errand flow framesize)
      (announced : errand.announce flow desk.console = .ok (errand.stats.map value) after) :
      Carried generator errand figures desk (.ok (figures framesize value) ⟨after, journal⟩)
  | unanswered {flow : FlowConfig} {framesize : Binary64} {fault : Fault} {after : σ}
      {journal : Journal FlowConfig} (prepared : Prepared generator errand flow framesize)
      (announced : errand.announce flow desk.console = .error fault after) :
      Carried generator errand figures desk (.error fault ⟨after, journal⟩)

theorem Carries.carried {α : Type} {figures : Binary64 → (String → Binary64) → α}
    {test : EStateM Fault (Desk σ) α} (carries : Carries generator errand figures test)
    (distinct : errand.stats.Nodup) (desk : Desk σ) :
    Carried generator errand figures desk (test desk) := by
  rcases refused_or_prepared generator errand with ⟨fault, refusal⟩ | ⟨flow, framesize, prepared⟩
  · obtain ⟨journal, failed⟩ := carries.refused desk refusal
    rw [failed]
    exact .refused refusal
  · cases announced : errand.announce flow desk.console with
    | error fault after =>
        obtain ⟨journal, failed⟩ := carries.unanswered desk prepared announced
        rw [failed]
        exact .unanswered prepared announced
    | ok values after =>
        -- the announcement aside, the values are what the dialogues brought back
        have count : values.length = errand.stats.length := by
          rw [Errand.announce, Dialogue.announce_eq] at announced
          exact Dialogue.length_of_collect announced
        obtain ⟨value, rfl⟩ := Dialogue.exists_map_of_nodup distinct count
        obtain ⟨journal, returned⟩ := carries.answered desk prepared announced
        rw [returned]
        exact .answered prepared announced

/-- Where a test is not refused, its console ends as the announcement leaves it. -/
theorem Carried.console {α : Type} {desk : Desk σ} {figures : Binary64 → (String → Binary64) → α}
    {result : EStateM.Result Fault (Desk σ) α}
    (carried : Carried generator errand figures desk result) :
    (∃ fault journal, result = .error fault { desk with journal }) ∨
      ∃ flow framesize, Prepared generator errand flow framesize ∧
        (endState result).console = endState (errand.announce flow desk.console) := by
  cases carried with
  | refused refusal => exact .inl ⟨_, _, rfl⟩
  | answered prepared announced =>
      refine .inr ⟨_, _, prepared, ?_⟩
      rw [announced]
      rfl
  | unanswered prepared announced =>
      refine .inr ⟨_, _, prepared, ?_⟩
      rw [announced]
      rfl

/-- What is made of the figures does not change how a test carries its errand. -/
theorem Carries.map {α β : Type} {figures : Binary64 → (String → Binary64) → α}
    {test : EStateM Fault (Desk σ) α} (carries : Carries generator errand figures test)
    (f : α → β) :
    Carries generator errand (fun framesize value => f (figures framesize value))
      (test >>= fun outcome => pure (f outcome)) where
  refused desk fault refusal := by
    obtain ⟨journal, failed⟩ := carries.refused desk refusal
    exact ⟨journal, bind_of_error failed⟩
  answered desk flow framesize value after prepared announced := by
    obtain ⟨journal, returned⟩ := carries.answered desk prepared announced
    exact ⟨journal, bind_of_ok returned⟩
  unanswered desk flow framesize fault after prepared announced := by
    obtain ⟨journal, failed⟩ := carries.unanswered desk prepared announced
    exact ⟨journal, bind_of_error failed⟩

end

/-! ## With a prepared operator -/

section

open Dialogue (Talk Transcript Unfinished talkNames talkAnswers talkShown talksOf)

variable {α : Type} {figures : Binary64 → (String → Binary64) → α}
  {test : EStateM Fault (Desk ScriptedOperator) α}

/-- The answers are enough, or they end inside one of the dialogues. -/
theorem enough_or_short (distinct : errand.stats.Nodup) (answers : List String) :
    (∃ (talk : String → Transcript) (rest : List String),
        answers = talkAnswers (talksOf errand.stats talk) ++ rest) ∨
      ∃ (talks : List Talk) (name : String) (more : List String) (u : Unfinished),
        errand.stats = talkNames talks ++ name :: more ∧
          answers = talkAnswers talks ++ u.answers := by
  rcases Dialogue.collectable errand.stats answers with ⟨talks, rest, names, rfl⟩ | short
  · rw [← names] at distinct
    obtain ⟨talk, row⟩ := Dialogue.exists_talksOf distinct
    rw [names] at row
    exact .inl ⟨talk, rest, by rw [← row]⟩
  · exact .inr short

/-- With complete dialogues for the statistics, a test makes its figures of the values
that these confirm. -/
theorem Carries.completes (carries : Carries generator errand figures test)
    (prepared : Prepared generator errand flow framesize) (talk : String → Transcript)
    (rest : List String) (shown : List Shown) (journal : Journal FlowConfig) :
    ∃ journal',
      test ⟨⟨talkAnswers (talksOf errand.stats talk) ++ rest, shown⟩, journal⟩ =
        .ok (figures framesize fun name => (talk name).value)
          ⟨⟨rest, shown ++ errand.told flow :: talkShown (talksOf errand.stats talk)⟩,
            journal'⟩ := by
  apply carries.answered ⟨_, journal⟩ prepared
  rw [Errand.announce, Dialogue.announce_eq]
  refine (Dialogue.collect_talksOf errand.stats talk).trans ?_
  rw [List.append_assoc]
  rfl

/-- A test whose operator runs out of answers fails there. -/
theorem Carries.starves (carries : Carries generator errand figures test)
    (prepared : Prepared generator errand flow framesize) {talks : List Talk} {name : String}
    {more : List String} (names : errand.stats = talkNames talks ++ name :: more)
    (u : Unfinished) (shown : List Shown) (journal : Journal FlowConfig) :
    ∃ journal',
      test ⟨⟨talkAnswers talks ++ u.answers, shown⟩, journal⟩ =
        .error .inputClosed
          ⟨⟨[], shown ++ errand.told flow :: (talkShown talks ++ u.shown name)⟩, journal'⟩ := by
  apply carries.unanswered ⟨_, journal⟩ prepared
  rw [Errand.announce, Dialogue.announce_eq, names]
  refine (Dialogue.collect_unfinished talks u).trans ?_
  rw [List.append_assoc]
  rfl

end

end Generator

end ManualTraffic
