/-
# ManualTraffic.Proofs.Session.Supply -- when the answers of an operator arrive

A session can queue answers on its way, in its scopes too.  Here it is compared with the
session that is given the same answers at its start, and has no queues (`unqueuedAll`).  What
is queued on the way are the answers of the queues that are reached (`supplied`); a scope
that fails reaches those before its failure.

At every moment the second session is ahead by the answers that the first one is yet to
queue (`Ahead`), and a test does not look behind the answers that it takes.  So as long as
the first session does not run out of answers, its calls and those of the second one have
the same outcomes (`accounts_supplied`).
-/
import ManualTraffic.Proofs.Session.Pairing
import Mathlib.Data.List.Forall2

namespace ManualTraffic

set_option autoImplicit false

variable {ε α : Type}

/-! ## Sessions without queues -/

/-- Whether a call queues answers. -/
def Step.isQueue : Step ε → Bool
  | .queue _ => true
  | _ => false

namespace Session

mutual

/-- A call without the queues in its scope. -/
def unqueued : Step ε → Step ε
  | .scope steps => .scope (unqueuedAll steps)
  | .burst options => .burst options
  | .continuous options => .continuous options
  | .throughput options => .throughput options
  | .queue answers => .queue answers
  | .connect => .connect
  | .disconnect => .disconnect
  | .raise error => .raise error
termination_by structural step => step

/-- The calls that are no queues. -/
def unqueuedAll : List (Step ε) → List (Step ε)
  | [] => []
  | step :: steps =>
      if step.isQueue then unqueuedAll steps else unqueued step :: unqueuedAll steps
termination_by structural steps => steps

end

mutual

/-- A result without those of the queues in its scope. -/
def withoutQueues : Step ε → StepResult → StepResult
  | .scope steps, .all results => .all (withoutQueuesAll steps results)
  | _, result => result
termination_by structural step => step

/-- The results of the calls that are no queues. -/
def withoutQueuesAll : List (Step ε) → List StepResult → List StepResult
  | step :: steps, result :: results =>
      if step.isQueue then withoutQueuesAll steps results
      else withoutQueues step result :: withoutQueuesAll steps results
  | _, _ => []
termination_by structural steps => steps

end

mutual

/-- The answers that a call queues. -/
def supplied (generator : Generator) : Step ε → Desk ScriptedOperator → List String
  | .queue answers, _ => answers
  | .scope steps, desk =>
      match generator.connect desk with
      | .ok connected desk => suppliedAll connected steps desk
      | .error _ _ => []
  | _, _ => []
termination_by structural step => step

/-- The answers that calls queue, up to the first that fails. -/
def suppliedAll (generator : Generator) : List (Step ε) → Desk ScriptedOperator → List String
  | [], _ => []
  | step :: steps, desk =>
      supplied generator step desk ++
        match run generator step desk with
        | .ok _ desk => suppliedAll generator steps desk
        | .error _ _ => []
termination_by structural steps => steps

end

/-- The answers that a session queues, call by call. -/
def supplies (generator : Generator) (threshold : Option LogLevel) :
    List String → List (Step ε) → List String
  | _, [] => []
  | answers, step :: steps =>
      supplied generator step ⟨⟨answers, []⟩, ⟨threshold, []⟩⟩ ++
        supplies generator threshold (account generator threshold answers step).remaining steps

/-! ## Being ahead -/

/-- An operator was shown the same as another one, and has more answers behind those of the
other. -/
structure Further (more : List String) (s t : ScriptedOperator) : Prop where
  answers : t.answers = s.answers ++ more
  shown : t.shown = s.shown

theorem further_inStep (more : List String) :
    InStep (Further more) fun fault => fault = .inputClosed where
  shown further shown := ⟨further.answers, congrArg (· ++ [shown]) further.shown⟩
  taken {s t answer rest} further taken := by
    obtain ⟨answers, shown⟩ := s
    obtain ⟨answers', shown'⟩ := t
    obtain rfl : answers' = answers ++ more := further.answers
    obtain rfl : shown = shown' := further.shown.symm
    cases answers with
    | nil => cases taken
    | cons first answers =>
        cases taken
        exact ⟨⟨answers ++ more, shown⟩, rfl, rfl, rfl⟩
  closed _ _ := .inr rfl

/-- A desk is ahead of another one by some answers. -/
def Ahead (more : List String) : Desk ScriptedOperator → Desk ScriptedOperator → Prop :=
  Desk.Beside (Further more) Eq

theorem ahead_abreast (more : List String) :
    Abreast (Further more) Eq fun fault => fault = .inputClosed :=
  ⟨further_inStep more, fun same line => congrArg (Journal.note line) same⟩

/-- A call failed because the operator ran out of answers. -/
def Starved (failure : Failure ε) : Prop := failure = .fault .inputClosed

variable {generator : Generator} {step : Step ε} {steps : List (Step ε)} {more : List String}
  {s t : Desk ScriptedOperator}

/-! ## Calls -/

/-- A scope runs its calls while connected. -/
theorem run_scope_of_ok {results : List StepResult}
    (done : runAll generator steps s.connected = .ok results t) :
    run generator (.scope steps) s = .ok (.all results) t.disconnected := by
  have inside : (link generator).within (fun connected => runAll connected steps) s =
      .ok results t.disconnected := Link.within_of_ok rfl done rfl
  rw [run]
  exact bind_of_ok inside

theorem run_scope_of_error {failure : Failure ε}
    (failed : runAll generator steps s.connected = .error failure t) :
    run generator (.scope steps) s = .error failure t.disconnected := by
  have inside : (link generator).within (fun connected => runAll connected steps) s =
      .error failure t.disconnected := Link.within_of_error rfl failed rfl
  rw [run]
  exact bind_of_error inside

/-- A call with something else made of its result. -/
def returning {β : Type} (f : α → β) (run : Call ε α) : Call ε β := do
  let value ← run
  pure (f value)

theorem returning_of_ok {β : Type} {f : α → β} {run : Call ε α} {value : α}
    (done : run s = .ok value t) : returning f run s = .ok (f value) t := bind_of_ok done

theorem returning_of_error {β : Type} {f : α → β} {run : Call ε α} {failure : Failure ε}
    (failed : run s = .error failure t) : returning f run s = .error failure t :=
  bind_of_error failed

section

variable {result : StepResult} {failure : Failure ε}

theorem runAll_cons_of_ok (done : run generator step s = .ok result t) :
    runAll generator (step :: steps) s =
      returning (result :: ·) (runAll generator steps) t := by
  rw [runAll, bind_of_ok done]
  rfl

theorem runAll_cons_of_error (failed : run generator step s = .error failure t) :
    runAll generator (step :: steps) s = .error failure t := by
  rw [runAll, bind_of_error failed]

theorem suppliedAll_cons_of_ok (done : run generator step s = .ok result t) :
    suppliedAll generator (step :: steps) s =
      supplied generator step s ++ suppliedAll generator steps t := by
  rw [suppliedAll, done]

theorem suppliedAll_cons_of_error (failed : run generator step s = .error failure t) :
    suppliedAll generator (step :: steps) s = supplied generator step s := by
  rw [suppliedAll, failed]
  exact List.append_nil _

/-- Without a queue at the start, the other results are left. -/
theorem returning_runAll_of_queue (done : run generator step s = .ok result t)
    (queue : step.isQueue = true) :
    returning (withoutQueuesAll (step :: steps)) (runAll generator (step :: steps)) s =
      returning (withoutQueuesAll steps) (runAll generator steps) t := by
  have first : runAll generator (step :: steps) s = _ := runAll_cons_of_ok done
  cases later : runAll generator steps t with
  | ok results after =>
      rw [returning_of_ok later] at first
      rw [returning_of_ok first, returning_of_ok later, withoutQueuesAll, if_pos queue]
  | error failure after =>
      rw [returning_of_error later] at first
      rw [returning_of_error first, returning_of_error later]

theorem returning_runAll_of_ok (done : run generator step s = .ok result t)
    (other : step.isQueue = false) :
    returning (withoutQueuesAll (step :: steps)) (runAll generator (step :: steps)) s =
      returning (withoutQueues step result :: ·)
        (returning (withoutQueuesAll steps) (runAll generator steps)) t := by
  have first : runAll generator (step :: steps) s = _ := runAll_cons_of_ok done
  have kept : ¬ step.isQueue = true := by simp [other]
  cases later : runAll generator steps t with
  | ok results after =>
      rw [returning_of_ok later] at first
      rw [returning_of_ok first, returning_of_ok (returning_of_ok later), withoutQueuesAll,
        if_neg kept]
  | error failure after =>
      rw [returning_of_error later] at first
      rw [returning_of_error first, returning_of_error (returning_of_error later)]

end

/-! ## Answers that are there before they are queued -/

/-- A call agrees with itself without its queues, on a desk that is ahead by what these
queue. -/
def Supplied (generator : Generator) (step : Step ε) : Prop :=
  ∀ ⦃more : List String⦄ ⦃s t : Desk ScriptedOperator⦄, step.isQueue = false →
    Ahead (supplied generator step s ++ more) s t →
      Agree (Ahead more) Starved (returning (withoutQueues step) (run generator step) s)
        (run generator (unqueued step) t)

theorem isQueue_eq_true (queue : step.isQueue = true) : ∃ answers, step = .queue answers := by
  cases step with
  | queue answers => exact ⟨answers, rfl⟩
  | burst | continuous | throughput | connect | disconnect | raise | scope => cases queue

/-- The answers of a queue are no longer ahead once it is done. -/
theorem ahead_of_queue {answers : List String}
    (ahead : Ahead (suppliedAll generator (.queue answers :: steps) s ++ more) s t) :
    ∃ after, run generator (.queue answers : Step ε) s = .ok .nothing after ∧
      Ahead (suppliedAll generator steps after ++ more) after t := by
  have done : run generator (.queue answers : Step ε) s = .ok .nothing
      { s with console := { s.console with answers := s.console.answers ++ answers } } := rfl
  refine ⟨_, done, ⟨?_, ahead.console.shown⟩, ahead.journal⟩
  rw [suppliedAll_cons_of_ok done] at ahead
  show t.console.answers = s.console.answers ++ answers ++ _
  rw [ahead.console.answers]
  simp only [supplied, List.append_assoc]

theorem runAll_supplied (each : ∀ step ∈ steps, Supplied generator step)
    (ahead : Ahead (suppliedAll generator steps s ++ more) s t) :
    Agree (Ahead more) Starved (returning (withoutQueuesAll steps) (runAll generator steps) s)
      (runAll generator (unqueuedAll steps) t) := by
  induction steps generalizing s t with
  | nil => exact .ok ahead
  | cons step steps ih =>
      by_cases queue : step.isQueue = true
      · -- the answers of a queue are there already
        have skipped : unqueuedAll (step :: steps) = unqueuedAll steps := by
          rw [unqueuedAll, if_pos queue]
        obtain ⟨answers, rfl⟩ := isQueue_eq_true queue
        obtain ⟨after, done, behind⟩ := ahead_of_queue ahead
        rw [returning_runAll_of_queue done queue, skipped]
        exact ih (List.forall_mem_cons.1 each).2 behind
      · have kept : unqueuedAll (step :: steps) = unqueued step :: unqueuedAll steps := by
          rw [unqueuedAll, if_neg queue]
        have other : step.isQueue = false := by simpa using queue
        obtain ⟨first, each⟩ := List.forall_mem_cons.1 each
        rw [kept]
        cases done : run generator step s with
        | ok result after =>
            rw [suppliedAll_cons_of_ok done, List.append_assoc] at ahead
            have agree := first other ahead
            rw [returning_of_ok done] at agree
            rw [returning_runAll_of_ok done other]
            generalize done' : run generator (unqueued step) t = there at agree
            cases agree with
            | ok related =>
                rw [runAll_cons_of_ok done']
                exact (ih each related).bind fun results => paired_pure _
        | error failure after =>
            rw [suppliedAll_cons_of_error done] at ahead
            have agree := first other ahead
            rw [returning_of_error done] at agree
            rw [returning_of_error (runAll_cons_of_error done)]
            generalize done' : run generator (unqueued step) t = there at agree
            cases agree with
            | error related =>
                rw [runAll_cons_of_error done']
                exact .error related
            | excused excuse => exact .excused excuse

/-- A scope agrees with itself where its calls do. -/
theorem supplied_scope (each : ∀ step ∈ steps, Supplied generator step) :
    Supplied generator (.scope steps) := by
  intro more s t _ ahead
  have connected : Ahead (suppliedAll generator steps s.connected ++ more) s.connected
      t.connected := (ahead_abreast _).noted ahead _ none
  have agree := runAll_supplied each connected
  have without : unqueued (.scope steps) = .scope (unqueuedAll steps) := rfl
  rw [without]
  generalize there : runAll generator (unqueuedAll steps) t.connected = second at agree
  cases here : runAll generator steps s.connected with
  | ok results after =>
      rw [returning_of_ok here] at agree
      rw [returning_of_ok (run_scope_of_ok here)]
      cases agree with
      | ok related =>
          rw [run_scope_of_ok there]
          exact .ok ((ahead_abreast more).noted related _ none)
  | error failure after =>
      rw [returning_of_error here] at agree
      rw [returning_of_error (run_scope_of_error here)]
      cases agree with
      | error related =>
          rw [run_scope_of_error there]
          exact .error ((ahead_abreast more).noted related _ none)
      | excused excuse => exact .excused excuse

/-- A call that holds no queues agrees with itself. -/
theorem supplied_of_paired (bare : unqueued step = step)
    (whole : ∀ result, withoutQueues step result = result)
    (nothing : ∀ desk, supplied generator step desk = [])
    (paired : ∀ more, Paired (Ahead more) Starved (run generator step) (run generator step)) :
    Supplied generator step := by
  intro more s t _ ahead
  rw [nothing, List.nil_append] at ahead
  have same : returning (withoutQueues step) (run generator step) s = run generator step s := by
    cases done : run generator step s with
    | ok result after => rw [returning_of_ok done, whole]
    | error failure after => rw [returning_of_error done]
  rw [same, bare]
  exact paired more s t ahead

theorem supplied_all (generator : Generator) (step : Step ε) : Supplied generator step := by
  induction step using Step.scopeInduction with
  | queue answers => intro more s t other; cases other
  | scope steps each => exact supplied_scope each
  | burst | continuous | throughput | connect | disconnect | raise =>
      refine supplied_of_paired rfl (fun _ => rfl) (fun _ => rfl) fun more => ?_
      exact paired_plain (ahead_abreast more) (fun _ => congrArg Failure.fault) generator rfl

/-! ## Whole sessions -/

/-- Whether the operator had no answer left for a call. -/
def Account.starved (told : Account ε) : Bool :=
  match told.outcome with
  | .error (.fault .inputClosed) => true
  | _ => false

/-- A call and its account, and the account of the call without queues: the same came of it,
the same was shown and logged, and the answers that were left are left. -/
structure SameCall (call : Step ε × Account ε) (told : Account ε) : Prop where
  outcome : told.outcome = call.2.outcome.map (withoutQueues call.1)
  shown : told.shown = call.2.shown
  lines : told.lines = call.2.lines
  remaining : call.2.remaining <+: told.remaining

variable {threshold : Option LogLevel} {answers : List String}

/-- The account of a call that ended so. -/
def Account.ofResult : EStateM.Result (Failure ε) (Desk ScriptedOperator) StepResult → Account ε
  | .ok result desk => ⟨.ok result, desk.console.shown, desk.console.answers, desk.journal.lines⟩
  | .error failure desk =>
      ⟨.error failure, desk.console.shown, desk.console.answers, desk.journal.lines⟩

theorem Account.ofResult_returning (f : StepResult → StepResult) (run : Call ε StepResult)
    (desk : Desk ScriptedOperator) :
    ofResult (returning f run desk) =
      { ofResult (run desk) with outcome := (ofResult (run desk)).outcome.map f } := by
  cases done : run desk with
  | ok result after => rw [returning_of_ok done]; rfl
  | error failure after => rw [returning_of_error done]; rfl

/-- Unless the operator had no answer left, being ahead shows in the answers that are left. -/
theorem Account.ofResult_agree
    {here there : EStateM.Result (Failure ε) (Desk ScriptedOperator) StepResult}
    (agree : Agree (Ahead more) Starved here there) (fed : (ofResult here).starved = false) :
    ofResult there = { ofResult here with remaining := (ofResult here).remaining ++ more } := by
  cases agree with
  | ok related =>
      simp only [ofResult, related.console.shown, related.console.answers, related.journal]
  | error related =>
      simp only [ofResult, related.console.shown, related.console.answers, related.journal]
  | excused excuse =>
      rw [excuse] at fed
      cases fed

theorem Account.starved_map (told : Account ε) (f : StepResult → StepResult) :
    { told with outcome := told.outcome.map f : Account ε }.starved = told.starved := by
  obtain ⟨outcome, _, _, _⟩ := told
  cases outcome <;> rfl

/-- The desk where a call starts. -/
abbrev opened (threshold : Option LogLevel) (answers : List String) : Desk ScriptedOperator :=
  ⟨⟨answers, []⟩, ⟨threshold, []⟩⟩

/-- A call that is no queue, when its answers are there at its start, and more. -/
theorem account_supplied (other : step.isQueue = false)
    (fed : (account generator threshold answers step).starved = false) (more : List String) :
    account generator threshold
        (answers ++ (supplied generator step (opened threshold answers) ++ more)) (unqueued step) =
      { account generator threshold answers step with
        outcome := (account generator threshold answers step).outcome.map (withoutQueues step),
        remaining := (account generator threshold answers step).remaining ++ more } := by
  have start : Ahead (supplied generator step (opened threshold answers) ++ more)
      (opened threshold answers)
      (opened threshold
        (answers ++ (supplied generator step (opened threshold answers) ++ more))) :=
    ⟨⟨rfl, rfl⟩, rfl⟩
  have agree := supplied_all generator step other start
  have same := Account.ofResult_returning (withoutQueues step) (run generator step)
    (opened threshold answers)
  have later := Account.ofResult_agree agree (by
    rw [same, Account.starved_map]
    exact fed)
  rw [same] at later
  exact later

theorem account_queue (generator : Generator) (threshold : Option LogLevel)
    (answers queued : List String) :
    (account generator threshold answers (.queue queued : Step ε)).remaining =
      answers ++ queued := rfl

theorem accounts_cons (generator : Generator) (threshold : Option LogLevel)
    (answers : List String) (step : Step ε) (steps : List (Step ε)) :
    accounts generator threshold answers (step :: steps) =
      account generator threshold answers step ::
        accounts generator threshold (account generator threshold answers step).remaining
          steps := rfl

theorem supplies_cons (generator : Generator) (threshold : Option LogLevel)
    (answers : List String) (step : Step ε) (steps : List (Step ε)) :
    supplies generator threshold answers (step :: steps) =
      supplied generator step (opened threshold answers) ++
        supplies generator threshold (account generator threshold answers step).remaining
          steps := rfl

/-- Only the order of the answers matters, not when they arrive.  Where no call of a session
lacks an answer, the session that has all answers at its start, whatever comes behind them,
and no queues, makes the other calls with the same outcomes. -/
theorem accounts_supplied (generator : Generator) (threshold : Option LogLevel)
    (answers : List String) (steps : List (Step ε))
    (fed : ∀ told ∈ accounts generator threshold answers steps, told.starved = false)
    (more : List String) :
    List.Forall₂ SameCall
      ((steps.zip (accounts generator threshold answers steps)).filter fun call =>
        !call.1.isQueue)
      (accounts generator threshold
        (answers ++ supplies generator threshold answers steps ++ more) (unqueuedAll steps)) := by
  induction steps generalizing answers with
  | nil => exact .nil
  | cons step steps ih =>
      obtain ⟨first, others⟩ := List.forall_mem_cons.1 fed
      have later := ih _ others
      rw [List.append_assoc] at later
      rw [accounts_cons, supplies_cons, List.zip_cons_cons, List.append_assoc, List.append_assoc]
      by_cases queue : step.isQueue = true
      · have skipped : unqueuedAll (step :: steps) = unqueuedAll steps := by
          rw [unqueuedAll, if_pos queue]
        obtain ⟨queued, rfl⟩ := isQueue_eq_true queue
        rw [account_queue, List.append_assoc] at later
        rw [skipped, List.filter_cons_of_neg (by simp [Step.isQueue])]
        exact later
      · have other : step.isQueue = false := by simpa using queue
        have kept : unqueuedAll (step :: steps) = unqueued step :: unqueuedAll steps := by
          rw [unqueuedAll, if_neg queue]
        rw [kept, accounts_cons, List.filter_cons_of_pos (by simp [other]),
          account_supplied other first]
        exact .cons ⟨rfl, rfl, rfl, List.prefix_append _ _⟩ later

/-- A scope is left by an error, with a queue behind it that is not reached. -/
theorem accounts_supplied_raised :
    let generator : Generator := ⟨.ofFrameSize (.ofNat false 64)⟩
    let steps : List (Step String) :=
      [.scope [.queue ["0", ""], .burst {}, .raise "stop", .queue ["never"]],
        .queue ["7", "n", "9", "", "0", "", "0", "", "0", "", "0", ""], .throughput {}]
    let answers := ["0", "", "0", ""]
    let all := answers ++ supplies generator none answers steps
    (∀ told ∈ accounts generator none answers steps, told.starved = false) ∧
      all = ["0", "", "0", "", "0", "", "7", "n", "9", "", "0", "", "0", "", "0", "", "0", ""] ∧
      List.Forall₂ SameCall
        ((steps.zip (accounts generator none answers steps)).filter fun call => !call.1.isQueue)
        (accounts generator none all [.scope [.burst {}, .raise "stop"], .throughput {}]) := by
  intro generator steps answers all
  have fed : ∀ told ∈ accounts generator none answers steps, told.starved = false := by
    decide +kernel
  have same := accounts_supplied generator none answers steps fed []
  rw [List.append_nil] at same
  exact ⟨fed, by decide +kernel, same⟩

end Session

end ManualTraffic
