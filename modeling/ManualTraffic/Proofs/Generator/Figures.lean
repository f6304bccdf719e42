/-
# ManualTraffic.Proofs.Generator.Figures -- what the figures of a test mean

Answers become figures by their place in a list, three times over: the statistics are
asked for in one order, collected in that order and taken apart in it.  Seen from the
outside there is no order.  A test returns exactly when the operator is told of its errand
and then goes through one dialogue for each statistic, and every figure is made of the
values that the dialogues of the statistics it names confirm (`tests_account`).
-/
import ManualTraffic.Proofs.Generator.Errand

namespace ManualTraffic

set_option autoImplicit false

namespace Generator

open Dialogue (Transcript)

/-- Between two states of an operator there was one announcement, and then one complete
dialogue for each statistic, in order. -/
structure Conversed (errand : Errand) (flow : FlowConfig) (talk : String → Transcript)
    (before after : ScriptedOperator) : Prop where
  shown : after.shown = before.shown ++ errand.told flow ::
    errand.stats.flatMap fun name => (talk name).shown name
  taken : before.answers = (errand.stats.flatMap fun name => (talk name).answers) ++ after.answers

/-- An outcome is the figures of the frame size and of the values that the operator
confirmed in the dialogue of each statistic. -/
def Accounts {α : Type} (generator : Generator) (errand : Errand)
    (figures : Binary64 → (String → Binary64) → α) (before after : ScriptedOperator)
    (outcome : α) : Prop :=
  ∃ (flow : FlowConfig) (framesize : Binary64) (talk : String → Transcript),
    Prepared generator errand flow framesize ∧ Conversed errand flow talk before after ∧
      outcome = figures framesize fun name => (talk name).value

variable {α : Type} {generator : Generator} {errand : Errand}
  {figures : Binary64 → (String → Binary64) → α}
  {test : EStateM Fault (Desk ScriptedOperator) α}

/-- A test that carries an errand returns its figures, and returns nothing else. -/
theorem Carries.ok_iff (carries : Carries generator errand figures test)
    (distinct : errand.stats.Nodup) (desk : Desk ScriptedOperator) (after : ScriptedOperator)
    (outcome : α) :
    (∃ journal, test desk = .ok outcome ⟨after, journal⟩) ↔
      Accounts generator errand figures desk.console after outcome := by
  obtain ⟨⟨answers, shown⟩, journal⟩ := desk
  constructor
  · rintro ⟨journal', returned⟩
    rcases refused_or_prepared generator errand with
      ⟨fault, refusal⟩ | ⟨flow, framesize, prepared⟩
    · obtain ⟨_, failed⟩ := carries.refused ⟨⟨answers, shown⟩, journal⟩ refusal
      rw [failed] at returned
      cases returned
    rcases enough_or_short distinct answers with
      ⟨talk, rest, rfl⟩ | ⟨talks, name, more, u, names, rfl⟩
    · obtain ⟨_, completed⟩ := carries.completes prepared talk rest shown journal
      rw [completed] at returned
      cases returned
      refine ⟨flow, framesize, talk, prepared, ⟨?_, ?_⟩, rfl⟩
      · rw [Dialogue.talkShown_talksOf]
      · rw [Dialogue.talkAnswers_talksOf]
    · obtain ⟨_, failed⟩ := carries.starves prepared names u shown journal
      rw [failed] at returned
      cases returned
  · rintro ⟨flow, framesize, talk, prepared, ⟨told, taken⟩, rfl⟩
    obtain ⟨rest, shown'⟩ := after
    obtain ⟨journal', completed⟩ := carries.completes prepared talk rest shown journal
    rw [Dialogue.talkShown_talksOf, Dialogue.talkAnswers_talksOf, ← told, ← taken] at completed
    exact ⟨journal', completed⟩

/-- **What the figures of a test mean.**  A test returns exactly when its errand passes the
checks and the operator goes through a dialogue for each statistic, and what it returns is
made of the frame size and of the value confirmed in each of them, by name and with the
operations of the format, whatever else was answered on the way. -/
theorem tests_account (generator : Generator) (desk : Desk ScriptedOperator)
    (after : ScriptedOperator) :
    (∀ (plan : BurstPlan) (outcome : BurstOutcome),
        (∃ journal, generator.burst plan desk = .ok outcome ⟨after, journal⟩) ↔
          Accounts generator (burstErrand plan) (burstFigures plan.numpkts) desk.console after
            outcome) ∧
      (∀ (plan : ContinuousPlan) (outcome : Results),
        (∃ journal, generator.continuous plan desk = .ok outcome ⟨after, journal⟩) ↔
          Accounts generator (continuousErrand plan) (runFigures plan.time) desk.console after
            outcome) ∧
      ∀ (plan : ThroughputPlan) (outcome : Results),
        (∃ journal, generator.throughput plan desk = .ok outcome ⟨after, journal⟩) ↔
          Accounts generator (throughputErrand plan) (runFigures plan.duration) desk.console after
            outcome :=
  ⟨fun plan => (burst_carries generator plan).ok_iff burstStats_nodup desk after,
    fun plan => (continuous_carries generator plan).ok_iff throughputStats_nodup desk after,
    fun plan => (throughput_carries generator plan).ok_iff throughputStats_nodup desk after⟩

/-- A value that is taken back leaves no trace in the figures. -/
example :
    (match (⟨.ofFrameSize (.ofNat false 64)⟩ : Generator).burst
        (BurstOptions.plan { numpkts := some (.ofNat false 12) })
        (⟨⟨["10", "n", "x", "12", "", "0", "y", "0", "maybe", "yes"], []⟩, ⟨none, []⟩⟩ :
          Desk ScriptedOperator) with
      | .ok outcome _ => outcome.results.map Prod.snd
      | .error _ _ => []) =
      [.ofNat false 12, .ofNat false 12, .ofNat false 768, .ofNat false 768, .zero, .zero] := by
  decide +kernel

end Generator

end ManualTraffic
