/-
# ManualTraffic.Proofs.Generator.Endings -- how a test can end

A test is refused before the operator is disturbed, or it completes, or the operator's
answers run out and the last question stands there without one (`Ending`).  Which errands
are refused, and why, does not depend on the operator.

Every test that carries an errand ends in one of these ways (`Carries.settled`), and so
the three tests do (`tests_settled`).
-/
import ManualTraffic.Proofs.Generator.Errand

namespace ManualTraffic

set_option autoImplicit false

namespace Generator

open Dialogue (Talk Unfinished isQuestion talkAnswers talkShown)

/-- How a test with a prepared operator ends. -/
inductive Ending {α : Type} (generator : Generator) (errand : Errand)
    (desk : Desk ScriptedOperator) :
    EStateM.Result Fault (Desk ScriptedOperator) α → Prop where
  | completed {outcome : α} {after : Desk ScriptedOperator}
      (clear : ∀ fault, ¬Refusal generator errand fault) :
      Ending generator errand desk (.ok outcome after)
  /-- Nothing was shown and no answer was taken, and no other fault comes first. -/
  | refused {fault : Fault} {journal : Journal FlowConfig}
      (refusal : Refusal generator errand fault)
      (only : ∀ other, Refusal generator errand other → other = fault) :
      Ending generator errand desk (.error fault { desk with journal })
  /-- Every answer was taken, each for one question, and then one more was asked. -/
  | starved {asked : List Shown} {question : String} {journal : Journal FlowConfig}
      (clear : ∀ fault, ¬Refusal generator errand fault)
      (answered : asked.countP isQuestion = desk.console.answers.length) :
      Ending generator errand desk
        (.error .inputClosed ⟨⟨[], desk.console.shown ++ (asked ++ [.ask question])⟩, journal⟩)

/-- A test ends in one of three ways.  Its fault is reported as what it is; a count of
answers that does not match is none of them, and a fault of the duration leaves the
operator undisturbed. -/
structure Settled {α : Type} (generator : Generator) (errand : Errand)
    (desk : Desk ScriptedOperator)
    (result : EStateM.Result Fault (Desk ScriptedOperator) α) : Prop where
  ending : Ending generator errand desk result
  kinds : ∀ fault after, result = .error fault after →
    fault.notice.kind = .badConfig ∧
        ((∃ given, fault = .badDuration (some given)) ∨ fault = .noLinkLayer ∨
          fault = .noFrameSize) ∨
      fault.notice.kind = .mergeConflict ∧ (∃ path, fault = .mergeConflict path) ∨
      fault.notice.kind = .inputClosed ∧ fault = .inputClosed
  counted : ∀ fault after, result = .error fault after →
    fault.notice.code ≠ some "STAT_COUNT_MISMATCH"
  timely : ∀ given after, result = .error (.badDuration given) after →
    after.console = desk.console

variable {generator : Generator} {errand : Errand} {flow : FlowConfig} {framesize : Binary64}
  {fault other : Fault} {desk : Desk ScriptedOperator}

/-! ## Refused or prepared, not both -/

theorem Refusal.not_prepared (refusal : Refusal generator errand fault) :
    ¬Prepared generator errand flow framesize := by
  rintro ⟨lasts, merged, l2, atL2, atSize, finite⟩
  cases refusal with
  | duration checked bad => simp [lasts _ checked] at bad
  | conflict _ given conflicts =>
      rw [given, effective_of_conflict conflicts] at merged
      cases merged
  | linkLayer _ merged' missing =>
      rw [merged] at merged'
      cases merged'
      exact missing l2 atL2
  | frameSize _ merged' atL2' missing =>
      rw [merged] at merged'
      cases merged'
      rw [atL2] at atL2'
      cases atL2'
      simp [missing framesize atSize] at finite

/-! ## What follows from an ending -/

theorem Refusal.notice_kind (refusal : Refusal generator errand fault) :
    fault.notice.kind = .badConfig ∧
        ((∃ given, fault = .badDuration (some given)) ∨ fault = .noLinkLayer ∨
          fault = .noFrameSize) ∨
      fault.notice.kind = .mergeConflict ∧ ∃ path, fault = .mergeConflict path := by
  cases refusal with
  | duration checked bad => exact .inl ⟨rfl, .inl ⟨_, rfl⟩⟩
  | conflict lasts given conflicts => exact .inr ⟨rfl, _, rfl⟩
  | linkLayer lasts merged missing => exact .inl ⟨rfl, .inr (.inl rfl)⟩
  | frameSize lasts merged atL2 missing => exact .inl ⟨rfl, .inr (.inr rfl)⟩

theorem Refusal.notice_code (refusal : Refusal generator errand fault) :
    fault.notice.code ∈ [some "INVALID_TRAFFIC_CONFIG", some "MERGE_TYPE_MISMATCH"] := by
  cases refusal <;> simp [Fault.notice, Notice.badConfig, Notice.mergeConflict]

variable {α : Type} {result : EStateM.Result Fault (Desk ScriptedOperator) α}

theorem Ending.settled (ending : Ending generator errand desk result) :
    Settled generator errand desk result where
  ending := ending
  kinds fault after failed := by
    cases ending with
    | completed clear => cases failed
    | refused refusal only =>
        cases failed
        exact refusal.notice_kind.imp_right Or.inl
    | starved clear answered =>
        cases failed
        exact .inr (.inr ⟨rfl, rfl⟩)
  counted fault after failed := by
    cases ending with
    | completed clear => cases failed
    | refused refusal only =>
        cases failed
        intro mismatch
        have code := refusal.notice_code
        rw [mismatch] at code
        revert code
        decide
    | starved clear answered =>
        cases failed
        decide
  timely given after failed := by
    cases ending with
    | completed clear => cases failed
    | refused refusal only =>
        cases failed
        rfl
    | starved clear answered => cases failed

/-! ## The tests -/

variable {figures : Binary64 → (String → Binary64) → α}
  {test : EStateM Fault (Desk ScriptedOperator) α}

/-- Where the answers run out, each of them has answered a question, and the last thing
shown is one more. -/
theorem shown_of_unfinished (flow : FlowConfig) (talks : List Talk) (u : Unfinished)
    (name : String) :
    ∃ asked question,
      errand.told flow :: (talkShown talks ++ u.shown name) = asked ++ [.ask question] ∧
        asked.countP isQuestion = (talkAnswers talks ++ u.answers).length := by
  obtain ⟨questions, before, question, last⟩ := @Dialogue.questions_unfinished name u
  refine ⟨errand.told flow :: (talkShown talks ++ before), question, ?_, ?_⟩
  · rw [last, List.cons_append, List.append_assoc]
  · rw [last, List.countP_append] at questions
    have behind : before.countP isQuestion = u.answers.length := Nat.succ.inj questions
    have told : isQuestion (errand.told flow) = false := rfl
    rw [List.countP_cons_of_neg (by simp [told]), List.countP_append, List.length_append, behind,
      Dialogue.questions_talks]

/-- A test that carries an errand ends in one of the three ways. -/
theorem Carries.settled (carries : Carries generator errand figures test)
    (distinct : errand.stats.Nodup) (desk : Desk ScriptedOperator) :
    Settled generator errand desk (test desk) := by
  apply Ending.settled
  rcases refused_or_prepared generator errand with ⟨fault, refusal⟩ | ⟨flow, framesize, prepared⟩
  · obtain ⟨journal, failed⟩ := carries.refused desk refusal
    rw [failed]
    refine .refused refusal fun other again => ?_
    -- one call has one fault
    obtain ⟨journal', failed'⟩ := carries.refused desk again
    rw [failed] at failed'
    cases failed'
    rfl
  have clear : ∀ fault, ¬Refusal generator errand fault :=
    fun _ refusal => refusal.not_prepared prepared
  obtain ⟨⟨answers, shown⟩, journal⟩ := desk
  rcases enough_or_short distinct answers with
    ⟨talk, rest, rfl⟩ | ⟨talks, name, more, u, names, rfl⟩
  · obtain ⟨journal', returned⟩ := carries.completes prepared talk rest shown journal
    rw [returned]
    exact .completed clear
  · obtain ⟨journal', failed⟩ := carries.starves prepared names u shown journal
    obtain ⟨asked, question, all, answered⟩ := shown_of_unfinished flow talks u name
    rw [failed, all]
    exact .starved clear answered

/-- **The endings of a test.** -/
theorem tests_settled (generator : Generator) (desk : Desk ScriptedOperator) :
    (∀ plan : BurstPlan,
        Settled generator (burstErrand plan) desk (generator.burst plan desk)) ∧
      (∀ plan : ContinuousPlan,
        Settled generator (continuousErrand plan) desk (generator.continuous plan desk)) ∧
      ∀ plan : ThroughputPlan,
        Settled generator (throughputErrand plan) desk (generator.throughput plan desk) :=
  ⟨fun plan => (burst_carries generator plan).settled burstStats_nodup desk,
    fun plan => (continuous_carries generator plan).settled throughputStats_nodup desk,
    fun plan => (throughput_carries generator plan).settled throughputStats_nodup desk⟩

end Generator

end ManualTraffic
