/-
# ManualTraffic.Proofs.Operator.Composition -- collecting in parts

Asking for two rows of statistics is asking for the one and then, on the answers that it left,
for the other (`collect_append`).  What a part comes to does not depend on what was shown ahead
of it, so the parts of a row can be told apart and put together again (`Part.behind`).
-/
import ManualTraffic.Proofs.Operator.Collection

namespace ManualTraffic

set_option autoImplicit false

namespace Dialogue

variable {σ : Type} [Console σ] {first second names answers rest : List String}
  {shown : List Shown} {values : List Binary64} {fault : Fault} {s t : ScriptedOperator}

/-- **Asking for two rows is asking for the one and then for the other**, on any console. -/
theorem collect_append (first second : List String) :
    (collect (first ++ second) : EStateM Fault σ (List Binary64)) = (do
      let values ← collect first
      let more ← collect second
      pure (values ++ more)) := by
  induction first with
  | nil => simp [collect]
  | cons name first ih => simp [collect, ih]

/-! ## Parts -/

/-- What collecting comes to: the values or a fault, the answers left and what was shown. -/
abbrev Part := EStateM.Result Fault ScriptedOperator (List Binary64)

instance decidableEqPart : DecidableEq Part
  | .ok values s, .ok more t =>
      decidable_of_iff (values = more ∧ s = t) (by rw [EStateM.Result.ok.injEq])
  | .error fault s, .error cause t =>
      decidable_of_iff (fault = cause ∧ s = t) (by rw [EStateM.Result.error.injEq])
  | .ok .., .error .. => isFalse nofun
  | .error .., .ok .. => isFalse nofun

/-- The dialogues for some names, from the given answers. -/
def part (names answers : List String) : Part := collect names ⟨answers, []⟩

/-- A part, behind one that returned some values and during which some things were shown. -/
def Part.behind (values : List Binary64) (shown : List Shown) : Part → Part
  | .ok more s => .ok (values ++ more) ⟨s.answers, shown ++ s.shown⟩
  | .error fault s => .error fault ⟨s.answers, shown ++ s.shown⟩

/-- What was shown before a part stays, and changes nothing about it. -/
theorem collect_eq_behind (names answers : List String) (shown : List Shown) :
    collect names (⟨answers, shown⟩ : ScriptedOperator) =
      (part names answers).behind [] shown := by
  unfold part
  rcases collectable names answers with ⟨talks, rest, rfl, rfl⟩ |
    ⟨talks, name, more, u, rfl, rfl⟩
  · simp [collect_talks, Part.behind]
  · simp [collect_unfinished, Part.behind]

/-- A part that returns is followed by the next one. -/
theorem part_append_of_ok (done : part first answers = .ok values s) :
    part (first ++ second) answers = (part second s.answers).behind values s.shown := by
  have next : collect second s = (part second s.answers).behind [] s.shown :=
    collect_eq_behind second s.answers s.shown
  unfold part at done
  rw [part, collect_append, bind_of_ok done]
  cases later : part second s.answers with
  | ok more t =>
      rw [later] at next
      exact bind_of_ok next
  | error fault t =>
      rw [later] at next
      exact bind_of_error next

/-- A part that runs out of answers is the end. -/
theorem part_append_of_error (failed : part first answers = .error fault s) :
    part (first ++ second) answers = .error fault s := by
  unfold part at failed
  rw [part, collect_append, bind_of_error failed]

theorem part_fault (failed : part names answers = .error fault s) :
    fault = .inputClosed ∧ s.answers = [] := by
  obtain ⟨rest, shown⟩ := s
  obtain ⟨closed, none, -⟩ := collect_eq_error_iff.1 failed
  exact ⟨closed, none⟩

/-- Both parts return exactly when the whole does. -/
theorem part_append_returns :
    (∃ values s, part (first ++ second) answers = .ok values s) ↔
      ∃ values s more t, part first answers = .ok values s ∧
        part second s.answers = .ok more t := by
  constructor
  · rintro ⟨values, s, returned⟩
    cases start : part first answers with
    | error fault t =>
        rw [part_append_of_error start] at returned
        cases returned
    | ok some t =>
        rw [part_append_of_ok start] at returned
        cases later : part second t.answers with
        | error fault u =>
            rw [later] at returned
            cases returned
        | ok more u => exact ⟨some, t, more, u, rfl, later⟩
  · rintro ⟨values, s, more, t, start, later⟩
    exact ⟨_, _, by rw [part_append_of_ok start, later]; rfl⟩

/-- **Collecting is sequential composition**, on any console.  For an operator with a script, what
comes behind the announcement is the dialogues for the one row of names and then, on the answers
left, those for the other: the whole returns when both do, with the values of both, and what is
shown is what both show; where the first row runs out of answers the whole does, and shows no
more.  So a call that returns has one value for each name, that of the dialogue for it, and the
answers it took are those of the dialogues, each of which confirms its value whatever answers
come behind. -/
theorem announce_in_parts (kind stream : String) (flow : FlowConfig)
    (first second answers : List String) :
    (∀ (σ : Type) [Console σ],
        (collect (first ++ second) : EStateM Fault σ (List Binary64)) = (do
          let values ← collect first
          let more ← collect second
          pure (values ++ more))) ∧
      (∀ names, announce kind stream flow names (⟨answers, []⟩ : ScriptedOperator) =
          (part names answers).behind [] [.print (announcement kind stream flow)]) ∧
      ((∃ values s, part (first ++ second) answers = .ok values s) ↔
        ∃ values s more t, part first answers = .ok values s ∧
          part second s.answers = .ok more t) ∧
      (∀ values s, part first answers = .ok values s →
        part (first ++ second) answers = (part second s.answers).behind values s.shown) ∧
      (∀ fault s, part first answers = .error fault s →
        fault = .inputClosed ∧ s.answers = [] ∧
          part (first ++ second) answers = .error .inputClosed s) ∧
      ∀ names values s,
        announce kind stream flow names (⟨answers, []⟩ : ScriptedOperator) = .ok values s →
        values.length = names.length ∧
          ∃ talks : List Talk, talkNames talks = names ∧ talkValues talks = values ∧
            answers = talkAnswers talks ++ s.answers ∧
            s.shown = .print (announcement kind stream flow) :: talkShown talks ∧
            ∀ talk ∈ talks, ∀ behind,
              askStat talk.name (⟨talk.transcript.answers ++ behind, []⟩ : ScriptedOperator) =
                .ok talk.transcript.value ⟨behind, talk.transcript.shown talk.name⟩ := by
  refine ⟨fun σ _ => collect_append first second, ?announced, part_append_returns, ?returns,
    ?fails, ?aligned⟩
  case announced =>
    intro names
    rw [announce_eq]
    exact collect_eq_behind names answers [.print (announcement kind stream flow)]
  case returns =>
    intro values s done
    exact part_append_of_ok done
  case fails =>
    intro fault s failed
    obtain ⟨rfl, none⟩ := part_fault failed
    exact ⟨rfl, none, part_append_of_error failed⟩
  case aligned =>
    intro names values s done
    obtain ⟨rest, shown⟩ := s
    rw [announce_eq] at done
    obtain ⟨talks, named, rfl, taken, rfl⟩ := collect_eq_ok_iff.1 done
    exact ⟨length_of_collect done, talks, named, rfl, taken, rfl,
      fun talk _ behind => askStat_talk talk behind⟩

/-- A name that is asked for twice, with a value taken back and answers that are asked for anew,
and the same names with two answers. -/
theorem announce_in_parts_repeated :
    let answers := ["x", "34", "n", "12", "", "0", "maybe", "y", "7", "", "left"]
    let twice := ["rx", "lost"] ++ ["rx"]
    let s := endState (part ["rx", "lost"] answers)
    let t := endState (part ["rx"] s.answers)
    let u := endState (part ["rx", "lost"] ["x", "34"])
    let v := endState (announce "burst" "" .root twice (⟨answers, []⟩ : ScriptedOperator))
    part ["rx", "lost"] answers = .ok [.ofNat false 12, .ofNat false 0] s ∧
      part ["rx"] s.answers = .ok [.ofNat false 7] t ∧
      part twice answers = .ok [.ofNat false 12, .ofNat false 0, .ofNat false 7]
        ⟨["left"], s.shown ++ t.shown⟩ ∧
      part ["rx", "lost"] ["x", "34"] = .error .inputClosed u ∧
      part twice ["x", "34"] = .error .inputClosed u ∧
      ∃ values, announce "burst" "" .root twice (⟨answers, []⟩ : ScriptedOperator) =
        .ok values v ∧ values.length = twice.length := by
  intro answers twice s t u v
  have start : part ["rx", "lost"] answers = .ok [.ofNat false 12, .ofNat false 0] s := by
    decide +kernel
  have later : part ["rx"] s.answers = .ok [.ofNat false 7] t := by decide +kernel
  have short : part ["rx", "lost"] ["x", "34"] = .error .inputClosed u := by decide +kernel
  have whole : announce "burst" "" .root twice (⟨answers, []⟩ : ScriptedOperator) =
      .ok [.ofNat false 12, .ofNat false 0, .ofNat false 7] v := by decide +kernel
  have left : t.answers = ["left"] := by decide +kernel
  obtain ⟨-, -, -, returns, -, aligned⟩ :=
    announce_in_parts "burst" "" .root ["rx", "lost"] ["rx"] answers
  obtain ⟨-, -, -, -, fails, -⟩ :=
    announce_in_parts "burst" "" .root ["rx", "lost"] ["rx"] ["x", "34"]
  refine ⟨start, later, ?_, short, (fails _ _ short).2.2, _, whole, (aligned twice _ _ whole).1⟩
  rw [returns _ _ start, later, ← left]
  rfl

end Dialogue

end ManualTraffic
