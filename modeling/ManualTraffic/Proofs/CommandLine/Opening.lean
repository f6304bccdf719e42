/-
# ManualTraffic.Proofs.CommandLine.Opening -- what a run shows first

A test of a request carries the errand of its kind (`Test.carries`), so it is refused
without a word or it begins with an announcement (`Opens`).  A row of tests goes on after
its first one, and neither what comes before the row nor what comes behind it shows
anything.  Hence the first thing that a run shows, if it shows anything, is the
announcement of a configuration that its generator sends (`perform_opens`).
-/
import ManualTraffic.CommandLine.Run
import ManualTraffic.Proofs.Generator.Errand
import ManualTraffic.Proofs.Operator.Output

namespace ManualTraffic

set_option autoImplicit false

open Generator (Errand Prepared Carries Carried)

/-- What a generator sends under an override: a configuration that comes about and has a
frame size. -/
def Generator.Sends (generator : Generator) (override : Option FlowConfig)
    (flow : FlowConfig) : Prop :=
  generator.effective override = .ok flow ∧ ∃ framesize, flow.HasFrameSize framesize

variable {σ α β : Type} {R : σ → σ → Prop} {P : FlowConfig → Prop} {generator : Generator}
  {override : Option FlowConfig} {desk : Desk σ}

/-! ## Desks and their consoles -/

/-- A relation between consoles as one between desks. -/
def Desk.Related (R : σ → σ → Prop) (s t : Desk σ) : Prop := R s.console t.console

theorem Desk.leads_atConsole {dialogue : EStateM Fault σ α} (leads : Leads R dialogue) :
    Leads (Desk.Related R) (Desk.atConsole dialogue) := by
  intro desk
  have led := leads desk.console
  unfold Desk.Related Desk.atConsole
  cases done : dialogue desk.console with
  | ok value after =>
      rw [done] at led
      exact led
  | error fault after =>
      rw [done] at led
      exact led

/-- Connecting and disconnecting show nothing. -/
theorem Generator.console_within (desk : Desk σ) (body : Generator → EStateM Fault (Desk σ) α) :
    ∃ start : Desk σ, start.console = desk.console ∧
      (endState (generator.link.within body desk)).console =
        (endState (body generator start)).console := by
  let start : Desk σ := desk.noted "connect: nothing to do for a manual generator" none
  have connected : generator.link.connect desk = .ok generator start := rfl
  have disconnected : ∀ after : Desk σ, generator.link.disconnect after =
      .ok () (after.noted "disconnect: nothing to do for a manual generator" none) :=
    fun _ => rfl
  refine ⟨start, rfl, ?_⟩
  simp only [Link.within, connected, disconnected]
  cases body generator start <;> rfl

variable [Console σ]

/-! ## Errands of tests -/

namespace Test

/-- The errand of a test under an override. -/
def errand (override : Option FlowConfig) : Test → Errand
  | .burst options => Generator.burstErrand (BurstOptions.plan { options with flow := override })
  | .continuous options =>
      Generator.continuousErrand (ContinuousOptions.plan { options with flow := override })
  | .throughput options =>
      Generator.throughputErrand (ThroughputOptions.plan { options with flow := override })

/-- The figures of a test, from its frame size and the value of each statistic. -/
def figures : Test → Binary64 → (String → Binary64) → Results
  | .burst options => fun framesize value =>
      (Generator.burstFigures options.plan.numpkts framesize value).results
  | .continuous options => Generator.runFigures options.plan.time
  | .throughput options => Generator.runFigures options.plan.duration

theorem override_errand (test : Test) : (test.errand override).override = override := by
  cases test <;> rfl

theorem stats_nodup (test : Test) : (test.errand override).stats.Nodup := by
  cases test with
  | burst options => exact Generator.burstStats_nodup
  | continuous options => exact Generator.throughputStats_nodup
  | throughput options => exact Generator.throughputStats_nodup

theorem carries (generator : Generator) (override : Option FlowConfig) (test : Test) :
    Carries generator (test.errand override) test.figures
      (test.measure generator override : EStateM Fault (Desk σ) Results) := by
  cases test with
  | burst options => exact (Generator.burst_carries generator _).map BurstOutcome.results
  | continuous options => exact Generator.continuous_carries generator _
  | throughput options => exact Generator.throughput_carries generator _

end Test

/-! ## Consoles behind an announcement -/

/-- Between two states of a console, a configuration was announced, and then it led on. -/
def Announced (R : σ → σ → Prop) (P : FlowConfig → Prop) (before after : σ) : Prop :=
  ∃ (errand : Errand) (flow : FlowConfig), P flow ∧
    R (Console.emit (errand.told flow) before) after

/-- A computation fails and leaves the console alone, or it begins with an announcement. -/
inductive Opens (R : σ → σ → Prop) (P : FlowConfig → Prop) (desk : Desk σ) :
    EStateM.Result Fault (Desk σ) α → Prop where
  | silent {fault : Fault} {journal : Journal FlowConfig} :
      Opens R P desk (.error fault { desk with journal })
  | told {result : EStateM.Result Fault (Desk σ) α}
      (announced : Announced R P desk.console (endState result).console) : Opens R P desk result

theorem Opens.bind (kept : Kept R) {first : EStateM Fault (Desk σ) α}
    {next : α → EStateM Fault (Desk σ) β} (opens : Opens R P desk (first desk))
    (later : ∀ value, Leads (Desk.Related R) (next value)) :
    Opens R P desk ((first >>= next) desk) := by
  generalize done : first desk = result at opens
  cases opens with
  | silent =>
      rw [bind_of_error done]
      exact .silent
  | told announced =>
      obtain ⟨errand, flow, sent, led⟩ := announced
      refine .told ⟨errand, flow, sent, ?_⟩
      cases result with
      | ok value after =>
          rw [bind_of_ok done]
          exact kept.trans led (later value after)
      | error fault after =>
          rw [bind_of_error done]
          exact led

namespace Generator

theorem announce_leads (kept : Kept R) (errand : Errand) (flow : FlowConfig) (s : σ) :
    R (Console.emit (errand.told flow) s) (endState (errand.announce flow s)) := by
  rw [Errand.announce, Dialogue.announce_eq]
  exact kept.collect errand.stats _

theorem Carried.opens {errand : Errand} {figures : Binary64 → (String → Binary64) → α}
    {result : EStateM.Result Fault (Desk σ) α} (kept : Kept R)
    (carried : Carried generator errand figures desk result) :
    Opens R (generator.Sends errand.override) desk result := by
  rcases carried.console with ⟨fault, journal, rfl⟩ | ⟨flow, framesize, prepared, same⟩
  · exact .silent
  · refine .told ⟨errand, flow, ⟨prepared.merged, framesize, prepared.sized⟩, ?_⟩
    rw [same]
    exact announce_leads kept errand flow desk.console

end Generator

/-- What begins with an announcement or leaves the console alone leads on from it. -/
theorem Opens.related (kept : Kept R) {result : EStateM.Result Fault (Desk σ) α}
    (opens : Opens R P desk result) : R desk.console (endState result).console := by
  cases opens with
  | silent => exact kept.refl _
  | told announced =>
      obtain ⟨errand, flow, -, led⟩ := announced
      exact kept.trans (kept.shown _ _) led

/-! ## Rows of tests -/

namespace Test

theorem measure_opens (kept : Kept R) (test : Test) :
    Opens R (generator.Sends override) desk (test.measure generator override desk) := by
  have opens := ((test.carries generator override).carried test.stats_nodup desk).opens kept
  rwa [override_errand] at opens

variable {format : OutputFormat} {color : Bool}

theorem run_opens (kept : Kept R) (test : Test) :
    Opens R (generator.Sends override) desk (test.run generator override format color desk) :=
  (measure_opens kept test).bind kept fun _ => Desk.leads_atConsole (kept.tellAll _)

theorem leads_runAll (kept : Kept R) (tests : List Test) :
    Leads (Desk.Related R) (runAll generator override format color tests) := by
  induction tests with
  | nil => exact leads_pure (fun desk => kept.refl desk.console) ()
  | cons test tests ih =>
      rw [runAll]
      exact leads_bind kept.trans (fun desk => (run_opens kept test).related kept) fun _ => ih

theorem runAll_opens (kept : Kept R) (test : Test) (tests : List Test) :
    Opens R (generator.Sends override) desk
      (runAll generator override format color (test :: tests) desk) :=
  (run_opens kept test).bind kept fun _ => leads_runAll kept tests

end Test

/-! ## Runs -/

/-- What a request sends with the given defaults. -/
def Request.Sends (request : Request (List Test)) (defaults flow : FlowConfig) : Prop :=
  ∃ generator override, Generator.create request.generator defaults = .ok generator ∧
    request.override = .ok override ∧ generator.Sends override flow

namespace CommandLine

/-- A run shows nothing, or first of all an announcement. -/
theorem perform_opens (kept : Kept R) (color : Bool) (settings : Settings)
    (request : Request (List Test)) (desk : Desk σ) :
    (endState (perform color settings request desk)).console = desk.console ∨
      Announced R (request.Sends settings.defaults) desk.console
        (endState (perform color settings request desk)).console := by
  rw [perform, bind_of_ok (Desk.debug_eq _ _)]
  cases created : Generator.create request.generator settings.defaults with
  | error fault => exact .inl rfl
  | ok generator =>
      rw [bind_of_ok (Desk.check_of_ok rfl)]
      obtain ⟨start, undisturbed, same⟩ := generator.console_within
        (desk.noted ("traffic defaults loaded from " ++ settings.defaultsFile) none)
        (fun connected => do
          let flow ← Desk.check request.override
          Test.runAll connected flow request.format color request.plan)
      rw [same]
      have undisturbed : start.console = desk.console := undisturbed
      cases overridden : request.override with
      | error fault => exact .inl undisturbed
      | ok override =>
          rw [bind_of_ok (Desk.check_of_ok rfl), ← undisturbed]
          cases request.plan with
          | nil => exact .inl rfl
          | cons test tests =>
              have opens : Opens R (generator.Sends override) start
                  (Test.runAll generator override request.format color (test :: tests) start) :=
                Test.runAll_opens kept test tests
              generalize Test.runAll generator override request.format color (test :: tests) start
                = result at opens ⊢
              cases opens with
              | silent => exact .inl rfl
              | told announced =>
                  obtain ⟨errand, flow, sent, led⟩ := announced
                  exact .inr ⟨errand, flow, ⟨generator, override, created, overridden, sent⟩, led⟩

theorem stdout_runTests {host : Host} {settings : Settings} (color : Bool) (input : List Char)
    (request : Request (List Test))
    (loaded : Settings.load host.extended host.read host.bundledFile = .ok settings) :
    (runTests host color input request).stdout =
      (endState (perform color settings request
        (⟨⟨input, ""⟩, ⟨some settings.logLevel, []⟩⟩ : Desk LineConsole))).console.written := by
  simp only [runTests, loaded]
  cases perform color settings request
    (⟨⟨input, ""⟩, ⟨some settings.logLevel, []⟩⟩ : Desk LineConsole) <;> rfl

/-! ## Starts -/

section

variable {host : Host} {complaint : String}

theorem failure_or_start (host : Host) :
    (∃ complaint, host.startup.failure = some complaint) ∨ host.startup.failure = none := by
  cases host.startup.failure with
  | some complaint => exact .inl ⟨complaint, rfl⟩
  | none => exact .inr rfl

/-- A program that does not start looks neither at its words nor at its input. -/
theorem execute_of_failure (failed : host.startup.failure = some complaint) (words : List String)
    (input : List Char) :
    execute host words input = ⟨1, host.startup.notice, "", complaint, input, false⟩ := by
  simp only [execute, failed]

theorem execute_of_start (started : host.startup.failure = none) (words : List String)
    (input : List Char) :
    execute host words input = (respond host words input).after host.startup.notice := by
  simp only [execute, started]

theorem execute_of_run (started : host.startup.failure = none) {words : List String}
    {request : Request (List Test)} (asked : Invocation.ofWords words = .run request)
    (input : List Char) :
    execute host words input =
      (runTests host (Color.styles host.environment words) input request).after
        host.startup.notice := by
  simp only [execute_of_start started, respond, asked]

end

/-- **What a run writes**: nothing but the notice of its start, or, right behind it, the
announcement of a configuration that is sent under its settings. -/
theorem stdout_execute {host : Host} {words : List String} {request : Request (List Test)}
    (asked : Invocation.ofWords words = .run request) (input : List Char) :
    (execute host words input).stdout = host.startup.notice ∨
      ∃ settings errand flow more,
        Settings.load host.extended host.read host.bundledFile = .ok settings ∧
        request.Sends settings.defaults flow ∧
        (execute host words input).stdout =
          host.startup.notice ++ ((Errand.told errand flow).text ++ more) := by
  rcases failure_or_start host with ⟨complaint, failed⟩ | started
  · rw [execute_of_failure failed]
    exact .inl rfl
  rw [execute_of_run started asked, Outcome.after]
  cases loaded : Settings.load host.extended host.read host.bundledFile with
  | error fault =>
      simp only [runTests, loaded]
      exact .inl String.append_empty
  | ok settings =>
      rw [stdout_runTests _ input request loaded]
      rcases perform_opens LineConsole.kept_grows (Color.styles host.environment words) settings
        request ⟨⟨input, ""⟩, ⟨some settings.logLevel, []⟩⟩ with
        undisturbed | ⟨errand, flow, sent, more, told⟩
      · rw [undisturbed]
        exact .inl String.append_empty
      · refine .inr ⟨settings, errand, flow, more, rfl, sent, ?_⟩
        rw [told]
        exact congrArg (fun text => host.startup.notice ++ (text ++ more)) String.empty_append

end CommandLine

end ManualTraffic
