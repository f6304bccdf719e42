/-
# ManualTraffic.Proofs.Operator.Collection -- one dialogue after another

Collecting statistics is a row of complete dialogues, one for each name and in the order
of the names (`Talk`).  The answers of a row start with those of its first dialogue,
whatever is taken back in it, and so no value can slip to a neighbouring name
(`collect_eq_ok_iff`).  A collection fails only inside a dialogue that runs out of
answers (`collect_eq_error_iff`).
-/
import ManualTraffic.Proofs.Operator.Transcript
import Mathlib.Logic.Function.Basic

namespace ManualTraffic

set_option autoImplicit false

namespace Dialogue

/-- An announcement is one thing shown, and the statistics are asked for behind it. -/
theorem announce_eq {σ : Type} [Console σ] (kind stream : String) (flow : FlowConfig)
    (stats : List String) (s : σ) :
    announce kind stream flow stats s =
      collect stats (Console.emit (.print (announcement kind stream flow)) s) := rfl

/-- A complete dialogue for a statistic. -/
structure Talk where
  name : String
  transcript : Transcript

/-- The names that a row of dialogues is for. -/
def talkNames (talks : List Talk) : List String := talks.map Talk.name

/-- The values that a row of dialogues confirms. -/
def talkValues (talks : List Talk) : List Binary64 := talks.map fun talk => talk.transcript.value

/-- The answers that a row of dialogues takes. -/
def talkAnswers (talks : List Talk) : List String :=
  talks.flatMap fun talk => talk.transcript.answers

/-- What is shown during a row of dialogues. -/
def talkShown (talks : List Talk) : List Shown :=
  talks.flatMap fun talk => talk.transcript.shown talk.name

@[simp] theorem talkNames_cons (talk : Talk) (talks : List Talk) :
    talkNames (talk :: talks) = talk.name :: talkNames talks := rfl

@[simp] theorem talkAnswers_cons (talk : Talk) (talks : List Talk) :
    talkAnswers (talk :: talks) = talk.transcript.answers ++ talkAnswers talks := rfl

@[simp] theorem talkShown_cons (talk : Talk) (talks : List Talk) :
    talkShown (talk :: talks) = talk.transcript.shown talk.name ++ talkShown talks := rfl

variable {names more : List String} {name : String} {answers rest : List String}
  {shown after : List Shown} {values : List Binary64} {fault : Fault} {talks : List Talk}

/-! ## Dialogues by name -/

/-- One dialogue for each name. -/
def talksOf (names : List String) (talk : String → Transcript) : List Talk :=
  names.map fun name => ⟨name, talk name⟩

theorem talkNames_talksOf (names : List String) (talk : String → Transcript) :
    talkNames (talksOf names talk) = names := by
  rw [talkNames, talksOf, List.map_map]
  exact List.map_id names

theorem talkValues_talksOf (names : List String) (talk : String → Transcript) :
    talkValues (talksOf names talk) = names.map fun name => (talk name).value := by
  rw [talkValues, talksOf, List.map_map]
  rfl

theorem talkAnswers_talksOf (names : List String) (talk : String → Transcript) :
    talkAnswers (talksOf names talk) = names.flatMap fun name => (talk name).answers := by
  rw [talkAnswers, talksOf, List.flatMap_map]

theorem talkShown_talksOf (names : List String) (talk : String → Transcript) :
    talkShown (talksOf names talk) = names.flatMap fun name => (talk name).shown name := by
  rw [talkShown, talksOf, List.flatMap_map]

/-- Where no name stands twice, a row of dialogues is a function of the name. -/
theorem exists_talksOf (distinct : (talkNames talks).Nodup) :
    ∃ talk : String → Transcript, talks = talksOf (talkNames talks) talk := by
  induction talks with
  | nil => exact ⟨fun _ => default, rfl⟩
  | cons first talks ih =>
      obtain ⟨fresh, distinct⟩ := List.nodup_cons.1 distinct
      obtain ⟨talk, row⟩ := ih distinct
      refine ⟨Function.update talk first.name first.transcript, ?_⟩
      have apart : ∀ name ∈ talkNames talks,
          (⟨name, talk name⟩ : Talk) =
            ⟨name, Function.update talk first.name first.transcript name⟩ := by
        intro name member
        rw [Function.update_of_ne fun (same : name = first.name) => fresh (same ▸ member)]
      rw [talkNames_cons, talksOf, List.map_cons, Function.update_self,
        ← List.map_congr_left apart]
      exact congrArg (first :: ·) row

/-- Each answer of a row answers one question. -/
theorem questions_talks (talks : List Talk) :
    (talkShown talks).countP isQuestion = (talkAnswers talks).length := by
  induction talks with
  | nil => rfl
  | cons talk talks ih =>
      rw [talkShown_cons, talkAnswers_cons, List.countP_append, List.length_append, ih,
        questions_transcript]

/-! ## Values by name -/

/-- One value comes back for each name. -/
theorem length_of_collect {σ : Type} [Console σ] {s t : σ}
    (done : collect names s = .ok values t) : values.length = names.length := by
  induction names generalizing s values with
  | nil =>
      cases done
      rfl
  | cons name names ih =>
      rw [collect] at done
      cases first : askStat name s with
      | error fault u =>
          rw [bind_of_error first] at done
          cases done
      | ok value u =>
          rw [bind_of_ok first] at done
          cases later : collect names u with
          | error fault v =>
              rw [bind_of_error later] at done
              cases done
          | ok more v =>
              rw [bind_of_ok later] at done
              cases done
              exact congrArg Nat.succ (ih later)

/-- As many values as there are names are values by name, where no name stands twice. -/
theorem exists_map_of_nodup (distinct : names.Nodup)
    (count : values.length = names.length) :
    ∃ value : String → Binary64, values = names.map value := by
  refine ⟨fun name => values.getD (names.idxOf name) .zero, List.ext_getElem ?_ ?_⟩
  · rw [List.length_map, count]
  · intro i below within
    have named : i < names.length := count ▸ below
    have place : names.idxOf names[i] = i := distinct.idxOf_getElem i named
    rw [List.getElem_map, place, List.getD_eq_getElem?_getD, List.getElem?_eq_getElem below,
      Option.getD_some]

/-! ## Every list of answers is read -/

/-- The answers start with complete dialogues for the names, or they end inside one of
them. -/
def Collectable (names answers : List String) : Prop :=
  (∃ (talks : List Talk) (rest : List String), talkNames talks = names ∧
      answers = talkAnswers talks ++ rest) ∨
    ∃ (talks : List Talk) (name : String) (more : List String) (u : Unfinished),
      names = talkNames talks ++ name :: more ∧ answers = talkAnswers talks ++ u.answers

theorem collectable (names answers : List String) : Collectable names answers := by
  induction names generalizing answers with
  | nil => exact .inl ⟨[], answers, rfl, rfl⟩
  | cons name names ih =>
      rcases readable answers with ⟨t, behind, rfl⟩ | ⟨u, rfl⟩
      · rcases ih behind with ⟨talks, rest, rfl, rfl⟩ | ⟨talks, next, more, u, rfl, rfl⟩
        · exact .inl ⟨⟨name, t⟩ :: talks, rest, rfl, by simp [talkAnswers]⟩
        · exact .inr ⟨⟨name, t⟩ :: talks, next, more, u, rfl, by simp [talkAnswers]⟩
      · exact .inr ⟨[], name, names, u, rfl, rfl⟩

/-! ## Running through dialogues -/

/-- The first dialogue of a row. -/
theorem askStat_talk (talk : Talk) (behind : List String) :
    askStat talk.name (⟨talk.transcript.answers ++ behind, shown⟩ : ScriptedOperator) =
      .ok talk.transcript.value ⟨behind, shown ++ talk.transcript.shown talk.name⟩ :=
  resume_transcript talk.transcript

theorem collect_talks (talks : List Talk) :
    collect (talkNames talks) (⟨talkAnswers talks ++ rest, shown⟩ : ScriptedOperator) =
      .ok (talkValues talks) ⟨rest, shown ++ talkShown talks⟩ := by
  induction talks generalizing shown with
  | nil =>
      rw [talkShown, List.flatMap_nil, List.append_nil]
      rfl
  | cons talk talks ih =>
      rw [talkNames_cons, talkAnswers_cons, talkShown_cons, List.append_assoc, collect,
        bind_of_ok (askStat_talk talk _), bind_of_ok ih, List.append_assoc]
      rfl

theorem collect_talksOf (names : List String) (talk : String → Transcript) :
    collect names (⟨talkAnswers (talksOf names talk) ++ rest, shown⟩ : ScriptedOperator) =
      .ok (names.map fun name => (talk name).value)
        ⟨rest, shown ++ talkShown (talksOf names talk)⟩ := by
  rw [← talkValues_talksOf, ← collect_talks, talkNames_talksOf]

/-- A collection that runs out of answers fails there, and takes them all. -/
theorem collect_unfinished (talks : List Talk) (u : Unfinished) :
    collect (talkNames talks ++ name :: more)
        (⟨talkAnswers talks ++ u.answers, shown⟩ : ScriptedOperator) =
      .error .inputClosed ⟨[], shown ++ (talkShown talks ++ u.shown name)⟩ := by
  induction talks generalizing shown with
  | nil => exact bind_of_error (resume_unfinished u)
  | cons talk talks ih =>
      rw [talkNames_cons, talkAnswers_cons, talkShown_cons, List.append_assoc, List.cons_append,
        collect, bind_of_ok (askStat_talk talk _), bind_of_error ih, List.append_assoc,
        List.append_assoc]

/-! ## What a collection returns -/

theorem collect_eq_ok_iff :
    collect names (⟨answers, shown⟩ : ScriptedOperator) = .ok values ⟨rest, after⟩ ↔
      ∃ talks : List Talk, talkNames talks = names ∧ values = talkValues talks ∧
        answers = talkAnswers talks ++ rest ∧ after = shown ++ talkShown talks := by
  constructor
  · intro returned
    rcases collectable names answers with ⟨talks, behind, rfl, rfl⟩ |
      ⟨talks, name, more, u, rfl, rfl⟩
    · rw [collect_talks] at returned
      cases returned
      exact ⟨talks, rfl, rfl, rfl, rfl⟩
    · rw [collect_unfinished] at returned
      cases returned
  · rintro ⟨talks, rfl, rfl, rfl, rfl⟩
    exact collect_talks talks

theorem collect_eq_error_iff :
    collect names (⟨answers, shown⟩ : ScriptedOperator) = .error fault ⟨rest, after⟩ ↔
      fault = .inputClosed ∧ rest = [] ∧
        ∃ (talks : List Talk) (name : String) (more : List String) (u : Unfinished),
          names = talkNames talks ++ name :: more ∧ answers = talkAnswers talks ++ u.answers ∧
            after = shown ++ (talkShown talks ++ u.shown name) := by
  constructor
  · intro failed
    rcases collectable names answers with ⟨talks, behind, rfl, rfl⟩ |
      ⟨talks, name, more, u, rfl, rfl⟩
    · rw [collect_talks] at failed
      cases failed
    · rw [collect_unfinished] at failed
      cases failed
      exact ⟨rfl, rfl, talks, name, more, u, rfl, rfl, rfl⟩
  · rintro ⟨rfl, rfl, talks, name, more, u, rfl, rfl, rfl⟩
    exact collect_unfinished talks u

end Dialogue

end ManualTraffic
