/-
# ManualTraffic.Proofs.CommandLine.InTurn -- several tests, or several runs

The tests of a request can be made in one run, or each in a run of its own on the input that
the one before it left.  A test takes from its console no more than its answers, and what was
written before it does not matter to it (`LineConsole.Behind`), so the tests behind a first
one go on as they would on what that one left (`runOf_cons`).  Along a whole row follows that
the one run writes what the single runs write, up to the first that fails (`runOf_inTurn`).

With what command lines share, the command `all` is the three others in turn (`all_in_turn`),
but for the start of the program: every run starts anew, and what is written at the start, about
which nothing is known, stands once in the output of `all` and three times in that of the three
commands (`all_starts_once`).
-/
import ManualTraffic.Proofs.CommandLine.Opening
import ManualTraffic.Proofs.CommandLine.Pairing
import ManualTraffic.Proofs.CommandLine.Shared
import ManualTraffic.Proofs.Operator.Lines

namespace ManualTraffic

set_option autoImplicit false

/-! ## Consoles behind a text -/

/-- A console has the input left that another one has, and wrote a text before it wrote the
same. -/
structure LineConsole.Behind (before : String) (s t : LineConsole) : Prop where
  unread : s.unread = t.unread
  written : s.written = before ++ t.written

theorem LineConsole.behind_inStep (before : String) :
    InStep (Behind before) fun _ => False where
  shown {s t} behind shown := by
    refine ⟨behind.unread, ?_⟩
    show s.written ++ shown.text = before ++ (t.written ++ shown.text)
    rw [behind.written, String.append_assoc]
  taken {s t answer rest} behind taken := by
    simp only [Console.answer?, answer?, ← behind.unread] at taken ⊢
    split at taken
    · cases taken
    · cases taken
      exact ⟨_, rfl, rfl, behind.written⟩
  closed {s t} behind closed := by
    simp only [Console.answer?, answer?, ← behind.unread] at closed ⊢
    split at closed
    · exact .inl rfl
    · cases closed

/-! ## One run -/

namespace CommandLine

variable {host : Host} {color : Bool} {settings : Settings} {request : Request (List Test)}
  {generator : Generator} {override : Option FlowConfig} {test : Test} {tests : List Test}
  {input : List Char}

/-- What a run needs for its tests. -/
structure Equips (host : Host) (request : Request (List Test)) (settings : Settings)
    (generator : Generator) (override : Option FlowConfig) : Prop where
  loaded : Settings.load host.extended host.read host.bundledFile = .ok settings
  created : Generator.create request.generator settings.defaults = .ok generator
  overridden : request.override = .ok override

/-- The desk where the tests of a run start. -/
def openedDesk {σ : Type} (settings : Settings) (desk : Desk σ) : Desk σ :=
  (desk.noted ("traffic defaults loaded from " ++ settings.defaultsFile) none).connected

section

variable {σ : Type} [Console σ] {desk after : Desk σ}

theorem perform_of_ok (equips : Equips host request settings generator override)
    (done : Test.runAll generator override request.format color request.plan
      (openedDesk settings desk) = .ok () after) :
    perform color settings request desk = .ok () after.disconnected := by
  rw [perform, bind_of_ok (Desk.debug_eq _ _), bind_of_ok (Desk.check_of_ok equips.created)]
  exact Generator.within_of_ok ((bind_of_ok (Desk.check_of_ok equips.overridden)).trans done)

theorem perform_of_error (equips : Equips host request settings generator override) {fault : Fault}
    (failed : Test.runAll generator override request.format color request.plan
      (openedDesk settings desk) = .error fault after) :
    perform color settings request desk = .error fault after.disconnected := by
  rw [perform, bind_of_ok (Desk.debug_eq _ _), bind_of_ok (Desk.check_of_ok equips.created)]
  exact Generator.within_of_error
    ((bind_of_ok (Desk.check_of_ok equips.overridden)).trans failed)

end

/-- The desk of a run with the operator's input. -/
abbrev freshDesk (settings : Settings) (input : List Char) : Desk LineConsole :=
  ⟨⟨input, ""⟩, ⟨some settings.logLevel, []⟩⟩

/-- The desk where the tests of a run with the operator's input start. -/
abbrev startDesk (settings : Settings) (input : List Char) : Desk LineConsole :=
  openedDesk settings (freshDesk settings input)

theorem runTests_of_ok (equips : Equips host request settings generator override)
    {after : Desk LineConsole}
    (done : Test.runAll generator override request.format color request.plan
      (startDesk settings input) = .ok () after) :
    (runTests host color input request).code = 0 ∧
      (runTests host color input request).stdout = after.console.written ∧
      (runTests host color input request).unread = after.console.unread := by
  simp only [runTests, equips.loaded, perform_of_ok equips done]
  exact ⟨trivial, rfl, rfl⟩

theorem runTests_of_fault {fault : Fault} {after : Desk LineConsole}
    (loaded : Settings.load host.extended host.read host.bundledFile = .ok settings)
    (failed : perform color settings request (freshDesk settings input) = .error fault after) :
    (runTests host color input request).code = 2 ∧
      (runTests host color input request).stdout = after.console.written := by
  simp only [runTests, loaded, failed]
  exact ⟨trivial, trivial⟩

theorem runTests_of_error (equips : Equips host request settings generator override)
    {fault : Fault} {after : Desk LineConsole}
    (failed : Test.runAll generator override request.format color request.plan
      (startDesk settings input) = .error fault after) :
    (runTests host color input request).code = 2 ∧
      (runTests host color input request).stdout = after.console.written := by
  have ended := runTests_of_fault equips.loaded (perform_of_error equips failed)
  exact ended

/-- A run of some tests, as a request has it otherwise. -/
def runOf (host : Host) (color : Bool) (request : Request (List Test)) (tests : List Test)
    (input : List Char) : Outcome :=
  runTests host color input { request with plan := tests }

/-- Naming the options of a test makes no difference to its run. -/
theorem runOf_explicit (host : Host) (color : Bool) (request : Request (List Test)) (test : Test)
    (input : List Char) :
    runOf host color request [test.explicit] input = runOf host color request [test] input := by
  have same (settings : Settings) :
      (perform color settings { request with plan := [test.explicit] } :
        EStateM Fault (Desk LineConsole) Unit) =
        perform color settings { request with plan := [test] } := by
    simp only [perform, Test.runAll, Test.run_explicit]
    rfl
  simp only [runOf, runTests, same]

/-- A run that is not equipped ends before its tests, whichever they are. -/
theorem equips_or_refused (host : Host) (request : Request (List Test)) :
    (∃ settings generator override, Equips host request settings generator override) ∨
      ∀ (color : Bool) (tests : List Test) (input : List Char),
        (runOf host color request tests input).code = 2 ∧
          (runOf host color request tests input).stdout = "" := by
  cases loaded : Settings.load host.extended host.read host.bundledFile with
  | error fault =>
      refine .inr fun color tests input => ?_
      simp only [runOf, runTests, loaded]
      exact ⟨trivial, trivial⟩
  | ok settings =>
      cases created : Generator.create request.generator settings.defaults with
      | error fault =>
          refine .inr fun color tests input => ?_
          have failed : perform color settings { request with plan := tests }
              (freshDesk settings input) = .error fault ((freshDesk settings input).noted
                ("traffic defaults loaded from " ++ settings.defaultsFile) none) := by
            rw [perform, bind_of_ok (Desk.debug_eq _ _)]
            exact bind_of_error (Desk.check_of_error created)
          exact runTests_of_fault loaded failed
      | ok generator =>
          cases overridden : request.override with
          | error fault =>
              refine .inr fun color tests input => ?_
              have failed : perform color settings { request with plan := tests }
                  (freshDesk settings input) =
                    .error fault (startDesk settings input).disconnected := by
                rw [perform, bind_of_ok (Desk.debug_eq _ _), bind_of_ok (Desk.check_of_ok created)]
                exact Generator.within_of_error (bind_of_error (Desk.check_of_error overridden))
              exact runTests_of_fault loaded failed
          | ok override => exact .inl ⟨settings, generator, override, loaded, created, overridden⟩

/-! ## One test, and the tests behind it -/

theorem runAll_of_ok {s after : Desk LineConsole} {format : OutputFormat}
    (done : test.run generator override format color s = .ok () after) (tests : List Test) :
    Test.runAll generator override format color (test :: tests) s =
      Test.runAll generator override format color tests after := by
  rw [Test.runAll, bind_of_ok done]

theorem runAll_of_error {s after : Desk LineConsole} {format : OutputFormat} {fault : Fault}
    (failed : test.run generator override format color s = .error fault after)
    (tests : List Test) :
    Test.runAll generator override format color (test :: tests) s = .error fault after := by
  rw [Test.runAll, bind_of_error failed]

theorem Equips.withPlan (equips : Equips host request settings generator override)
    (plan : List Test) : Equips host { request with plan } settings generator override :=
  ⟨equips.loaded, equips.created, equips.overridden⟩

/-- Tests at a desk go on as they would on the input that is left. -/
theorem runAll_behind (settings : Settings) (generator : Generator)
    (override : Option FlowConfig) (format : OutputFormat) (color : Bool) (tests : List Test)
    (after : Desk LineConsole) :
    Agree (Desk.Beside (LineConsole.Behind after.console.written) fun _ _ => True) (fun _ => False)
      (Test.runAll generator override format color tests after)
      (Test.runAll generator override format color tests
        (startDesk settings after.console.unread)) := by
  have abreast : Abreast (LineConsole.Behind after.console.written) (fun _ _ => True)
      fun _ => False := ⟨LineConsole.behind_inStep _, fun _ _ => trivial⟩
  refine abreast.tests generator override format color tests _ _ ⟨⟨rfl, ?_⟩, trivial⟩
  show after.console.written = after.console.written ++ ""
  rw [String.append_empty]

/-- A test and the tests behind it: where it fails they do not take place, and else they take
place on what it left. -/
theorem runOf_cons (host : Host) (color : Bool) (request : Request (List Test)) (test : Test)
    (tests : List Test) (input : List Char) :
    let first := runOf host color request [test] input
    let others := runOf host color request tests first.unread
    let whole := runOf host color request (test :: tests) input
    (first.code = 2 ∧ whole.code = 2 ∧ whole.stdout = first.stdout) ∨
      (first.code = 0 ∧ whole.code = others.code ∧
        whole.stdout = first.stdout ++ others.stdout) := by
  intro first others whole
  rcases equips_or_refused host request with ⟨settings, generator, override, equips⟩ | refused
  · cases ran : test.run generator override request.format color (startDesk settings input) with
    | error fault after =>
        obtain ⟨code, told⟩ : first.code = 2 ∧ first.stdout = after.console.written :=
          runTests_of_error (equips.withPlan _) (runAll_of_error ran _)
        obtain ⟨code', told'⟩ : whole.code = 2 ∧ whole.stdout = after.console.written :=
          runTests_of_error (equips.withPlan _) (runAll_of_error ran _)
        exact .inl ⟨code, code', told'.trans told.symm⟩
    | ok _ after =>
        obtain ⟨code, told, left⟩ : first.code = 0 ∧ first.stdout = after.console.written ∧
            first.unread = after.console.unread :=
          runTests_of_ok (equips.withPlan _) (runAll_of_ok ran _)
        have goesOn := runAll_of_ok ran tests
        have agree := runAll_behind settings generator override request.format color tests after
        rw [← goesOn, ← left] at agree
        refine .inr ⟨code, ?_⟩
        generalize here : Test.runAll generator override request.format color (test :: tests)
          (startDesk settings input) = one at agree
        generalize there : Test.runAll generator override request.format color tests
          (startDesk settings first.unread) = other at agree
        cases agree with
        | @ok _ last last' behind =>
            obtain ⟨code, wrote, -⟩ : whole.code = 0 ∧ whole.stdout = last.console.written ∧ _ :=
              runTests_of_ok (equips.withPlan _) here
            obtain ⟨code', wrote', -⟩ : others.code = 0 ∧
                others.stdout = last'.console.written ∧ _ :=
              runTests_of_ok (equips.withPlan _) there
            refine ⟨code.trans code'.symm, ?_⟩
            rw [wrote, told, wrote', behind.console.written]
        | @error _ last last' behind =>
            obtain ⟨code, wrote⟩ : whole.code = 2 ∧ whole.stdout = last.console.written :=
              runTests_of_error (equips.withPlan _) here
            obtain ⟨code', wrote'⟩ : others.code = 2 ∧ others.stdout = last'.console.written :=
              runTests_of_error (equips.withPlan _) there
            refine ⟨code.trans code'.symm, ?_⟩
            rw [wrote, told, wrote', behind.console.written]
        | excused excuse => cases excuse
  · obtain ⟨code, told⟩ : first.code = 2 ∧ first.stdout = "" := refused color _ input
    obtain ⟨code', told'⟩ : whole.code = 2 ∧ whole.stdout = "" := refused color _ input
    exact .inl ⟨code, code', told'.trans told.symm⟩

/-! ## Runs in turn -/

/-- Runs in turn, each on the input that the one before it left, up to the first that does
not end well. -/
def inTurn : List (List Char → Outcome) → List Char → List Outcome
  | [], _ => []
  | run :: later, input =>
      run input :: if (run input).code = 0 then inTurn later (run input).unread else []

/-- How a row of so many runs ended, and the one run in place of them: all went well, or one
of them did not. -/
def EndsAlike (count : Nat) (outcomes : List Outcome) (code : UInt8) : Prop :=
  (outcomes.length = count ∧ (∀ outcome ∈ outcomes, outcome.code = 0) ∧ code = 0) ∨
    (∃ outcome ∈ outcomes, outcome.code ≠ 0) ∧ code = 2

theorem endsAlike_failed {first : Outcome} {count : Nat} (failed : first.code = 2) :
    EndsAlike count [first] 2 := by
  refine .inr ⟨⟨first, List.mem_singleton_self _, ?_⟩, rfl⟩
  rw [failed]
  decide

theorem EndsAlike.cons {first : Outcome} {count : Nat} {outcomes : List Outcome} {code : UInt8}
    (done : first.code = 0) (others : EndsAlike count outcomes code) :
    EndsAlike (count + 1) (first :: outcomes) code := by
  rcases others with ⟨length, well, ended⟩ | ⟨⟨outcome, member, failed⟩, ended⟩
  · exact .inl ⟨congrArg (· + 1) length, List.forall_mem_cons.2 ⟨done, well⟩, ended⟩
  · exact .inr ⟨⟨outcome, List.mem_cons_of_mem _ member, failed⟩, ended⟩

/-- **A run of several tests is a run of each in turn.** -/
theorem runOf_inTurn (host : Host) (color : Bool) (request : Request (List Test))
    (input : List Char) {tests : List Test} (planned : tests ≠ []) :
    let outcomes := inTurn (tests.map fun test => runOf host color request [test]) input
    let whole := runOf host color request tests input
    whole.stdout = String.join (outcomes.map Outcome.stdout) ∧
      EndsAlike tests.length outcomes whole.code := by
  induction tests generalizing input with
  | nil => exact absurd rfl planned
  | cons test tests ih =>
      intro outcomes whole
      let first := runOf host color request [test] input
      let later := inTurn (tests.map fun test => runOf host color request [test]) first.unread
      have row : outcomes = first :: if first.code = 0 then later else [] := rfl
      have alone : String.join ([first].map Outcome.stdout) = first.stdout := by
        rw [List.map_singleton, String.join_cons, String.join_nil, String.append_empty]
      by_cases done : first.code = 0
      · rw [row, if_pos done]
        cases tests with
        | nil =>
            have same : whole = first := rfl
            rw [same]
            exact ⟨alone.symm, .inl ⟨rfl, List.forall_mem_singleton.2 done, done⟩⟩
        | cons next tests =>
            obtain ⟨told, ended⟩ := ih first.unread nofun
            obtain ⟨failed, -⟩ | ⟨-, code, wrote⟩ :=
              runOf_cons host color request test (next :: tests) input
            · exact absurd (done.symm.trans failed) (by decide)
            · have code : whole.code = _ := code
              have wrote : whole.stdout = first.stdout ++ _ := wrote
              rw [code, wrote, List.map_cons, String.join_cons]
              exact ⟨congrArg _ told, ended.cons done⟩
      · rw [row, if_neg done, alone]
        obtain ⟨failed, code, wrote⟩ | ⟨done', -⟩ := runOf_cons host color request test tests input
        · have code : whole.code = 2 := code
          rw [code]
          exact ⟨wrote, endsAlike_failed failed⟩
        · exact absurd done' done

/-! ## Reports -/

/-- How a run of one test ends, by its code and by what it writes: the report of its figures
stands behind its dialogue, and a test that fails has none. -/
inductive Reports (host : Host) (color : Bool) (request : Request (List Test)) (test : Test)
    (input : List Char) : UInt8 → String → Prop where
  /-- The test did not begin. -/
  | refused (missing : ¬∃ settings generator override,
      Equips host request settings generator override) :
      Reports host color request test input 2 ""
  | failed {settings : Settings} {generator : Generator} {override : Option FlowConfig}
      {fault : Fault} {after : Desk LineConsole}
      (equips : Equips host request settings generator override)
      (measured : test.measure generator override (startDesk settings input) =
        .error fault after) :
      Reports host color request test input 2 after.console.written
  | reported {settings : Settings} {generator : Generator} {override : Option FlowConfig}
      {results : Results} {after : Desk LineConsole}
      (equips : Equips host request settings generator override)
      (measured : test.measure generator override (startDesk settings input) =
        .ok results after) :
      Reports host color request test input 0
        (after.console.written ++ Shown.render
          ((Report.lines request.format color test.name results.toRecord).map .print))

theorem emitAll_eq (shown : List Shown) (s : LineConsole) :
    Console.emitAll shown s = ⟨s.unread, s.written ++ Shown.render shown⟩ := by
  induction shown generalizing s with
  | nil =>
      show s = ⟨s.unread, s.written ++ ""⟩
      rw [String.append_empty]
  | cons one shown ih =>
      show Console.emitAll shown (Console.emit one s) = _
      rw [ih, Shown.render, Shown.render, List.map_cons, String.join_cons, ← String.append_assoc]
      rfl

theorem runOf_reports (host : Host) (color : Bool) (request : Request (List Test)) (test : Test)
    (input : List Char) :
    Reports host color request test input (runOf host color request [test] input).code
      (runOf host color request [test] input).stdout := by
  by_cases ready : ∃ settings generator override, Equips host request settings generator override
  · obtain ⟨settings, generator, override, equips⟩ := ready
    cases measured : test.measure generator override (startDesk settings input) with
    | error fault after =>
        have failed : test.run generator override request.format color
            (startDesk settings input) = .error fault after := bind_of_error measured
        obtain ⟨code, told⟩ : (runOf host color request [test] input).code = 2 ∧
            (runOf host color request [test] input).stdout = after.console.written :=
          runTests_of_error (equips.withPlan _) (runAll_of_error failed _)
        rw [code, told]
        exact .failed equips measured
    | ok results after =>
        let report := (Report.lines request.format color test.name results.toRecord).map Shown.print
        let last : Desk LineConsole :=
          { after with console := Console.emitAll report after.console }
        have done : test.run generator override request.format color
            (startDesk settings input) = .ok () last :=
          (bind_of_ok measured).trans
            (Desk.atConsole_of_ok after (Console.tellAll_eq report after.console))
        have ran : Test.runAll generator override request.format color [test]
            (startDesk settings input) = .ok () last := runAll_of_ok done []
        obtain ⟨code, told, -⟩ : (runOf host color request [test] input).code = 0 ∧
            (runOf host color request [test] input).stdout = last.console.written ∧ _ :=
          runTests_of_ok (equips.withPlan _) ran
        have wrote : last.console.written = after.console.written ++ Shown.render report := by
          show (Console.emitAll report after.console).written = _
          rw [emitAll_eq]
        rw [code, told, wrote]
        exact .reported equips measured
  · obtain ⟨code, told⟩ := (equips_or_refused host request).resolve_left ready color [test] input
    rw [code, told]
    exact .refused ready

/-! ## Command lines in turn -/

theorem inTurn_after (before : String) (runs : List (List Char → Outcome)) (input : List Char) :
    inTurn (runs.map fun run input => (run input).after before) input =
      (inTurn runs input).map (Outcome.after before) := by
  induction runs generalizing input with
  | nil => rfl
  | cons run runs ih =>
      show (run input).after before :: (if (run input).code = 0 then _ else []) = _
      rw [inTurn, List.map_cons]
      by_cases done : (run input).code = 0
      · rw [if_pos done, if_pos done]
        exact congrArg _ (ih _)
      · rw [if_neg done, if_neg done]
        rfl

theorem EndsAlike.after {count : Nat} {outcomes : List Outcome} {code : UInt8} (before : String)
    (ends : EndsAlike count outcomes code) :
    EndsAlike count (outcomes.map (Outcome.after before)) code := by
  rcases ends with ⟨length, well, ended⟩ | ⟨⟨outcome, member, failed⟩, ended⟩
  · refine .inl ⟨(List.length_map _).trans length, ?_, ended⟩
    intro outcome member
    obtain ⟨bare, inside, rfl⟩ := List.mem_map.1 member
    exact well bare inside
  · exact .inr ⟨⟨_, List.mem_map_of_mem member, failed⟩, ended⟩

theorem mentions_cons {word : String} {words wanted : List String} (goesOn : (word != "--") = true)
    (unwanted : wanted.contains word = false) :
    Color.mentions (word :: words) wanted = Color.mentions words wanted := by
  simp only [Color.mentions, List.takeWhile_cons, goesOn, if_true, List.any_cons, unwanted,
    Bool.false_or]

/-- The name of a command says nothing about colour. -/
theorem styles_named {name : String} (listed : name ∈ Command.list.map Command.name)
    (environment : Environment) (options : List String) :
    Color.styles environment (name :: options) = Color.styles environment options := by
  have plain : (name != "--") = true ∧ Color.refusing.contains name = false ∧
      Color.asking.contains name = false ∧ Color.detailed.contains name = false := by
    obtain ⟨command, member, rfl⟩ := List.mem_map.1 listed
    rcases Command.eq_of_mem member with rfl | rfl | rfl | rfl <;> decide
  obtain ⟨goesOn, refusing, asking, detailed⟩ := plain
  simp only [Color.styles, Color.wish, Color.Wish.ofWords, mentions_cons goesOn refusing,
    mentions_cons goesOn asking, mentions_cons goesOn detailed]

/-- The commands that `all` stands for. -/
def commands (host : Host) (options : List String) : List (List Char → Outcome) :=
  ["burst", "continuous", "throughput"].map fun name => execute host (name :: options)

/-! ### Hosts whose programs start -/

section

variable {options : List String} (started : host.startup.failure = none)
  (asked : Invocation.ofWords ("all" :: options) = .run request)

include started asked

/-- With the options of `all`, a command is the run of its test alone. -/
theorem execute_single {test : Test} (planned : test ∈ Command.allTests) (input : List Char) :
    execute host (test.name :: options) input =
      (runOf host (Color.styles host.environment options) request [test] input).after
        host.startup.notice := by
  have listed : test.name ∈ Command.list.map Command.name := by
    rcases Command.eq_of_mem_allTests planned with rfl | rfl | rfl <;> decide
  have alone := (Invocation.run_of_all asked).2 test planned
  rw [execute_of_run started alone, styles_named listed, ← runOf_explicit]
  rfl

theorem inTurn_commands (input : List Char) :
    inTurn (commands host options) input =
      (inTurn (Command.allTests.map fun test =>
        runOf host (Color.styles host.environment options) request [test]) input).map
          (Outcome.after host.startup.notice) := by
  have same : commands host options =
      (Command.allTests.map fun test =>
        runOf host (Color.styles host.environment options) request [test]).map
          fun run input => (run input).after host.startup.notice := by
    rw [List.map_map]
    exact List.map_congr_left fun test planned => funext (execute_single started asked planned)
  rw [same, inTurn_after]

theorem execute_all (input : List Char) :
    execute host ("all" :: options) input =
      (runOf host (Color.styles host.environment options) request Command.allTests input).after
        host.startup.notice := by
  have listed : "all" ∈ Command.list.map Command.name := by decide
  rw [execute_of_run started asked, styles_named listed, runOf, ← (Invocation.run_of_all asked).1]

/-- The runs write their texts behind the notice of their start, and `all` writes these texts
behind one notice. -/
theorem inTurn_of_start (input : List Char) :
    let outcomes := inTurn (commands host options) input
    let whole := execute host ("all" :: options) input
    (∃ texts : List String,
        outcomes.map Outcome.stdout = texts.map (host.startup.notice ++ ·) ∧
          whole.stdout = host.startup.notice ++ String.join texts) ∧
      EndsAlike 3 outcomes whole.code := by
  intro outcomes whole
  have inPlace : outcomes = _ := inTurn_commands started asked input
  have total : whole = _ := execute_all started asked input
  have nonempty : Command.allTests ≠ [] := nofun
  obtain ⟨told, ended⟩ := runOf_inTurn host (Color.styles host.environment options) request input
    nonempty
  rw [inPlace, total]
  refine ⟨⟨_, ?_, congrArg (host.startup.notice ++ ·) told⟩, ended.after host.startup.notice⟩
  rw [List.map_map, List.map_map]
  rfl

theorem execute_reports {test : Test} (planned : test ∈ Command.allTests) (input : List Char) :
    ∃ text, (execute host (test.name :: options) input).stdout = host.startup.notice ++ text ∧
      Reports host (Color.styles host.environment options) request test input
        (execute host (test.name :: options) input).code text := by
  rw [execute_single started asked planned]
  exact ⟨_, rfl, runOf_reports host _ request test input⟩

end

/-! ### Hosts whose programs do not start -/

theorem inTurn_of_failure {complaint : String} (failed : host.startup.failure = some complaint)
    (options : List String) (input : List Char) :
    inTurn (commands host options) input =
      [⟨1, host.startup.notice, "", complaint, input, false⟩] := by
  have ended : (1 : UInt8) ≠ 0 := by decide
  rw [commands, List.map_cons, inTurn, execute_of_failure failed, if_neg ended]

/-! ### The command `all` -/

/-- **The command `all` is the three commands in turn.**  With the same options and on the same
input it writes what they write one after another, up to the first that fails, each on the
input that the one before it left; the notice of the start, which every run writes, comes
once.

Where the program starts, it ends well just when they all do.  The report of a test is written
in full behind its dialogue, and a test that fails has none.  Where it does not start, neither
does the first of the three, and both end alike. -/
theorem all_in_turn (host : Host) {options : List String}
    (asked : Invocation.ofWords ("all" :: options) = .run request) (input : List Char) :
    let notice := host.startup.notice
    let outcomes := inTurn (commands host options) input
    let whole := execute host ("all" :: options) input
    (∃ texts : List String, outcomes.map Outcome.stdout = texts.map (notice ++ ·) ∧
        whole.stdout = notice ++ String.join texts) ∧
      (host.startup.failure = none → EndsAlike 3 outcomes whole.code ∧
        ∀ test ∈ Command.allTests, ∀ input, ∃ text,
          (execute host (test.name :: options) input).stdout = notice ++ text ∧
            Reports host (Color.styles host.environment options) request test input
              (execute host (test.name :: options) input).code text) ∧
      ∀ complaint, host.startup.failure = some complaint →
        outcomes = [whole] ∧ whole.code = 1 ∧ whole.stdout = notice ∧
          whole.stderr = complaint := by
  intro notice outcomes whole
  rcases failure_or_start host with ⟨complaint, failed⟩ | started
  · have alone : outcomes = _ := inTurn_of_failure failed options input
    have total : whole = _ := execute_of_failure failed ("all" :: options) input
    have bare : notice = notice ++ "" := String.append_empty.symm
    rw [alone, total, failed]
    refine ⟨⟨[""], congrArg (fun text => [text]) bare, bare⟩, fun started => ?_,
      fun complaint same => ?_⟩
    · cases started
    · cases same
      exact ⟨rfl, rfl, rfl, String.empty_append⟩
  · obtain ⟨written, ended⟩ := inTurn_of_start started asked input
    refine ⟨written, fun _ => ⟨ended, fun test planned input => ?_⟩, fun complaint failed => ?_⟩
    · exact execute_reports started asked planned input
    · rw [started] at failed
      cases failed

/-- Answers for one burst: the second test finds the input at its end, and the third one does
not take place. -/
theorem all_in_turn_one_burst :
    let host : Host := ⟨[], {}, fun _ => .error "no such file", "defaults.json"⟩
    let options := ["--output", "csv"]
    let input := "10\n\n0\n\n0\nyes\n".toList
    let outcomes := inTurn (commands host options) input
    let whole := execute host ("all" :: options) input
    (∃ request, Invocation.ofWords ("all" :: options) = .run request) ∧
      outcomes.map Outcome.code = [0, 2] ∧
      (∃ texts : List String,
        outcomes.map Outcome.stdout = texts.map (host.startup.notice ++ ·) ∧
          whole.stdout = host.startup.notice ++ String.join texts) ∧
      whole.code = 2 := by
  intro host options input outcomes whole
  have codes : outcomes.map Outcome.code = [0, 2] := by decide +kernel
  have accepted : ∃ request, Invocation.ofWords ("all" :: options) = .run request := ⟨_, rfl⟩
  obtain ⟨request, asked⟩ := accepted
  obtain ⟨written, starts, -⟩ := all_in_turn host asked input
  refine ⟨⟨request, asked⟩, codes, written, ?_⟩
  rcases (starts rfl).1 with ⟨length, -, -⟩ | ⟨-, ended⟩
  · have two : outcomes.length = 2 := by
      rw [← List.length_map Outcome.code, codes]
      rfl
    exact absurd (two.symm.trans length) (by decide)
  · exact ended

theorem length_join_map_append (before : String) (texts : List String) :
    (String.join (texts.map (before ++ ·))).length =
      texts.length * before.length + (String.join texts).length := by
  induction texts with
  | nil => rw [List.map_nil, List.length_nil, Nat.zero_mul, Nat.zero_add]
  | cons text texts ih =>
      rw [List.map_cons, String.join_cons, String.join_cons, String.length_append,
        String.length_append, String.length_append, ih, List.length_cons, Nat.succ_mul]
      omega

/-- Each run starts anew: the notice of a key without a sealed file comes with every one of the
three commands and once with `all`, and with a sealed file that the key does not open, none of
them starts. -/
theorem all_starts_once :
    let host (startup : Startup) : Host :=
      ⟨[("DOTENV_KEY", "x")], startup, fun _ => .error "no such file", "defaults.json"⟩
    let warned := host
      { notice := "[dotenv@16.6.1][WARN] You set DOTENV_KEY but you are missing a .env.vault " ++
          "file at null. Did you forget to build it?\n" }
    let refused := host { failure := some "Error: INVALID_DOTENV_KEY: Wrong format.\n" }
    let input := "0\n\n0\n\n0\n\n".toList
    (∃ request, Invocation.ofWords ["all"] = .run request) ∧
      (execute warned ["all"] input).stdout ≠
        String.join ((inTurn (commands warned []) input).map Outcome.stdout) ∧
      (inTurn (commands refused []) input).map Outcome.code = [1] ∧
      (execute refused ["all"] input).code = 1 := by
  intro host warned refused input
  have accepted : ∃ request, Invocation.ofWords ["all"] = .run request := ⟨_, rfl⟩
  refine ⟨accepted, fun same => ?_, by decide +kernel, by decide +kernel⟩
  obtain ⟨request, asked⟩ := accepted
  let notice := warned.startup.notice
  let rows := inTurn (Command.allTests.map fun test =>
    runOf warned (Color.styles warned.environment []) request [test]) input
  let outcomes := inTurn (commands warned []) input
  have started : warned.startup.failure = none := rfl
  have inPlace : outcomes = rows.map (Outcome.after notice) :=
    inTurn_commands started asked input
  have two : rows.length = 2 := by
    have codes : outcomes.map Outcome.code = [0, 2] := by decide +kernel
    rw [← List.length_map (Outcome.after notice), ← inPlace, ← List.length_map Outcome.code, codes]
    rfl
  have nonempty : Command.allTests ≠ [] := nofun
  have told :
      (runOf warned (Color.styles warned.environment []) request Command.allTests input).stdout =
        String.join (rows.map Outcome.stdout) := (runOf_inTurn warned _ request input nonempty).1
  have prefixed : outcomes.map Outcome.stdout =
      (rows.map Outcome.stdout).map (notice ++ ·) := by
    rw [inPlace, List.map_map, List.map_map]
    rfl
  -- the lengths differ by that of one notice
  have same : (execute warned ["all"] input).stdout =
      String.join (outcomes.map Outcome.stdout) := same
  rw [execute_all started asked, Outcome.after, told, prefixed] at same
  have lengths := congrArg String.length same
  rw [String.length_append, length_join_map_append, List.length_map, two] at lengths
  have long : notice.length ≠ 0 := by decide +kernel
  have length : warned.startup.notice.length = notice.length := rfl
  omega

end CommandLine

end ManualTraffic
