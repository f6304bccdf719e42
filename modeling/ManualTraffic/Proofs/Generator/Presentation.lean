/-
# ManualTraffic.Proofs.Generator.Presentation -- what is only shown

The kind of a test and the text about its stream are shown to the operator and reach nothing
else.  So a continuous flow and a throughput test of the same duration are one computation, and
two bursts that differ in their time and their frame rate are.  They fail alike, or they return
the same figures; they take the same answers; and what the operator is shown is the same but for
lines of the announcement, its first two or its second one (`runs_agree`).

Both runs come to the announcement by the same steps, so they are compared from one state
(`agree_bind_first`), and from two only once the announcements are out (`Told`).
-/
import ManualTraffic.Proofs.Binary64.Text
import ManualTraffic.Proofs.Generator.Pairing

namespace ManualTraffic

set_option autoImplicit false

/-! ## Announcements in lines -/

namespace Text

/-- A text begins with two lines. -/
structure InLines (text first second rest : String) : Prop where
  text_eq : text = first ++ "\n" ++ (second ++ "\n" ++ rest)
  first : Unbroken first.toList
  second : Unbroken second.toList

/-- Two texts are the same from the third line on. -/
def AlikeFromThird (one other : String) : Prop :=
  ∃ first second first' second' rest,
    InLines one first second rest ∧ InLines other first' second' rest

/-- Two texts are the same but for the second line. -/
def AlikeButSecond (one other : String) : Prop :=
  ∃ first second second' rest, InLines one first second rest ∧ InLines other first second' rest

end Text

open Text

namespace Dialogue

variable {kind stream : String}

/-- The first line of an announcement. -/
def kindLine (kind : String) : String :=
  "Please send '" ++ kind ++ "' traffic with the following stream config:"

/-- What an announcement says behind its second line. -/
def flowLines (flow : FlowConfig) : String :=
  "and the following flow config:\n" ++ flow.toJson.indented 4

theorem printable_kindLine (printable : Printable kind.toList) :
    Printable (kindLine kind).toList := by
  have before : Printable "Please send '".toList := by decide +kernel
  have behind : Printable "' traffic with the following stream config:".toList := by
    decide +kernel
  exact (before.concat printable).concat behind

/-- Texts in a row, two of which hold a line break. -/
theorem append_lines (a b c d e f g h : String) (ends : c = g ++ "\n") (begins : e = "\n" ++ h) :
    a ++ b ++ c ++ d ++ e ++ f = a ++ b ++ g ++ "\n" ++ (d ++ "\n" ++ (h ++ f)) := by
  subst ends begins
  simp only [String.append_assoc]

theorem announcement_inLines (kinds : Printable kind.toList) (streams : Printable stream.toList)
    (flow : FlowConfig) :
    InLines (announcement kind stream flow) (kindLine kind) stream (flowLines flow) where
  text_eq :=
    append_lines _ _ _ _ _ _ "' traffic with the following stream config:"
      "and the following flow config:\n" (by decide +kernel) (by decide +kernel)
  first := (printable_kindLine kinds).unbroken
  second := streams.unbroken

end Dialogue

/-! ## Two operators -/

/-- Two operators were shown one text each, and from then on the same, and they have the same
answers left. -/
structure Told (before : List Shown) (one other : String) (s t : ScriptedOperator) : Prop where
  answers : s.answers = t.answers
  shown : ∃ more, s.shown = before ++ .print one :: more ∧ t.shown = before ++ .print other :: more

/-- Two operators were shown nothing since the start, or each an announcement of its own and
then the same. -/
inductive Retold (alike : String → String → Prop) (start : ScriptedOperator) :
    ScriptedOperator → ScriptedOperator → Prop where
  | silent : Retold alike start start start
  | told {one other : String} {s t : ScriptedOperator} (texts : alike one other)
      (told : Told start.shown one other s t) : Retold alike start s t

theorem told_inStep (before : List Shown) (one other : String) :
    InStep (Told before one other) Unexcused where
  shown := by
    rintro s t ⟨answers, more, atS, atT⟩ shown
    refine ⟨answers, more ++ [shown], ?_, ?_⟩
    · show s.shown ++ [shown] = _
      rw [atS, List.append_assoc, List.cons_append]
    · show t.shown ++ [shown] = _
      rw [atT, List.append_assoc, List.cons_append]
  taken := by
    rintro ⟨answers, shown⟩ ⟨_, shown'⟩ answer rest ⟨rfl, since⟩ taken
    cases answers with
    | nil => cases taken
    | cons first others =>
        cases taken
        exact ⟨_, rfl, rfl, since⟩
  closed := by
    rintro ⟨answers, shown⟩ ⟨_, shown'⟩ ⟨rfl, since⟩ closed
    cases answers with
    | nil => exact .inl rfl
    | cons first others => cases closed

variable {alike : String → String → Prop} {kind kind' stream stream' : String}

/-- Two announcements of the same statistics agree. -/
theorem Dialogue.announce_agree {flow : FlowConfig} (stats : List String)
    (texts : alike (announcement kind stream flow) (announcement kind' stream' flow))
    (start : ScriptedOperator) :
    Agree (Retold alike start) Unexcused (announce kind stream flow stats start)
      (announce kind' stream' flow stats start) := by
  have told : Told start.shown (announcement kind stream flow) (announcement kind' stream' flow)
      (Console.emit (.print (announcement kind stream flow)) start)
      (Console.emit (.print (announcement kind' stream' flow)) start) := ⟨rfl, [], rfl, rfl⟩
  have collected := (told_inStep _ _ _).collect stats _ _ told
  exact collected.mono fun s t related => .told texts related

namespace Generator

/-! ## Two tests -/

/-- From one desk to another the console is left alone. -/
def Quiet {σ : Type} (before after : Desk σ) : Prop := after.console = before.console

theorem Quiet.refl {σ : Type} (desk : Desk σ) : Quiet desk desk := rfl

theorem Quiet.trans {σ : Type} {s t u : Desk σ} (first : Quiet s t) (second : Quiet t u) :
    Quiet s u :=
  Eq.trans second first

theorem quiet_check {σ α : Type} (checked : Except Fault α) :
    Leads Quiet (Desk.check checked : EStateM Fault (Desk σ) α) := by
  cases checked with
  | ok value => exact leads_pure Quiet.refl value
  | error fault => exact leads_throw Quiet.refl fault

/-- Looking up the configuration of a test shows nothing. -/
theorem quiet_resolve {σ : Type} [Console σ] (generator : Generator)
    (override : Option FlowConfig) :
    Leads Quiet (generator.resolve override : EStateM Fault (Desk σ) _) := by
  refine leads_bind Quiet.trans (quiet_check _) fun flow => ?_
  refine leads_bind Quiet.trans (leads_modify fun d => rfl) fun _ => ?_
  exact leads_bind Quiet.trans (quiet_check _) fun framesize => leads_pure Quiet.refl _

/-- A desk whose console is as it was at the start, beside another one. -/
theorem Quiet.beside {J : Journal FlowConfig → Journal FlowConfig → Prop}
    {desk s t : Desk ScriptedOperator} (quiet : Quiet desk s) (quiet' : Quiet desk t)
    (journals : J s.journal t.journal) : Desk.Beside (Retold alike desk.console) J s t := by
  refine ⟨?_, journals⟩
  rw [show s.console = desk.console from quiet, show t.console = desk.console from quiet']
  exact .silent

/-- Two tests whose announcements are out go on alike. -/
theorem announced_agree {J : Journal FlowConfig → Journal FlowConfig → Prop} {α : Type}
    {flow : FlowConfig} {stats : List String} {desk s t : Desk ScriptedOperator}
    (texts : alike (Dialogue.announcement kind stream flow)
      (Dialogue.announcement kind' stream' flow))
    (quiet : Quiet desk s) (quiet' : Quiet desk t) (journals : J s.journal t.journal)
    {figures : List Binary64 → EStateM Fault (Desk ScriptedOperator) α}
    (paired : ∀ answers, Paired (Desk.Beside (Retold alike desk.console) J) Unexcused
      (figures answers) (figures answers)) :
    Agree (Desk.Beside (Retold alike desk.console) J) Unexcused
      ((Desk.atConsole (Dialogue.announce kind stream flow stats) >>= figures) s)
      ((Desk.atConsole (Dialogue.announce kind' stream' flow stats) >>= figures) t) := by
  have told := Dialogue.announce_agree stats texts desk.console
  refine Agree.bind (Desk.agree_atConsole ?_ journals) paired
  rw [show s.console = desk.console from quiet, show t.console = desk.console from quiet']
  exact told

/-- Two runs of the same duration agree, whatever is announced. -/
theorem measure_agree
    (texts : ∀ flow, alike (Dialogue.announcement kind stream flow)
      (Dialogue.announcement kind' stream' flow))
    (generator : Generator) (override : Option FlowConfig) (duration : Binary64)
    (desk : Desk ScriptedOperator) :
    Agree (Desk.Beside (Retold alike desk.console) Eq) Unexcused
      (generator.measure kind stream override duration desk)
      (generator.measure kind' stream' override duration desk) := by
  have stays (d : Desk ScriptedOperator) (quiet : Quiet desk d) :
      Desk.Beside (Retold alike desk.console) Eq d d := quiet.beside quiet rfl
  refine agree_bind_first (quiet_check _ desk) stays fun lasting start quiet => ?_
  refine agree_bind_first (quiet.trans (quiet_resolve generator override start)) stays
    fun resolved start quiet => ?_
  exact announced_agree (texts resolved.1) quiet quiet rfl fun answers => Desk.paired_check _

/-- Two bursts of the same count agree, whatever is announced.  Their logs are the same where
their frame rates are. -/
theorem burst_agree {numpkts time time' framerate framerate' : Binary64}
    (texts : ∀ flow, alike
      (Dialogue.announcement "burst" (numpkts.text ++ "pkts, " ++ time.text ++ "mS") flow)
      (Dialogue.announcement "burst" (numpkts.text ++ "pkts, " ++ time'.text ++ "mS") flow))
    (generator : Generator) (override : Option FlowConfig) (desk : Desk ScriptedOperator) :
    Agree (Desk.Beside (Retold alike desk.console) fun a b => framerate = framerate' → a = b)
      Unexcused
      (generator.burst ⟨override, numpkts, time, framerate⟩ desk)
      (generator.burst ⟨override, numpkts, time', framerate'⟩ desk) := by
  refine agree_bind_first (quiet_resolve generator override desk)
    (fun d quiet => quiet.beside quiet fun _ => rfl) fun ⟨flow, framesize⟩ start quiet => ?_
  dsimp only
  rw [bind_of_ok (Desk.debug_eq _ _), bind_of_ok (Desk.debug_eq _ _)]
  refine announced_agree (s := start.noted _ none) (t := start.noted _ none) (texts flow) quiet
    quiet ?_ (Desk.paired_burstFrom numpkts framesize)
  rintro rfl
  rfl

/-! ## Streams -/

theorem printable_burstStream (numpkts time : Binary64) :
    Printable (numpkts.text ++ "pkts, " ++ time.text ++ "mS").toList := by
  have count : Printable "pkts, ".toList := by decide +kernel
  have unit : Printable "mS".toList := by decide +kernel
  exact ((numpkts.printable_text.concat count).concat time.printable_text).concat unit

theorem printable_continuousStream (time framerate : Binary64) (multistream : Bool) :
    Printable (time.text ++ "mS, " ++ framerate.text ++ "mpps, multistream " ++
      (if multistream then "true" else "false")).toList := by
  have unit : Printable "mS, ".toList := by decide +kernel
  have rate : Printable "mpps, multistream ".toList := by decide +kernel
  have flag : Printable (if multistream then "true" else "false").toList := by
    cases multistream <;> decide +kernel
  exact (((time.printable_text.concat unit).concat framerate.printable_text).concat rate).concat
    flag

theorem printable_throughputStream (trials duration lossrate : Binary64) (multistream : Bool) :
    Printable (trials.text ++ " trials, " ++ duration.text ++ " seconds iterations, " ++
      lossrate.fixed 6 ++ " packet loss, multistream " ++
      (if multistream then "enabled" else "disabled")).toList := by
  have count : Printable " trials, ".toList := by decide +kernel
  have unit : Printable " seconds iterations, ".toList := by decide +kernel
  have loss : Printable " packet loss, multistream ".toList := by decide +kernel
  have flag : Printable (if multistream then "enabled" else "disabled").toList := by
    cases multistream <;> decide +kernel
  have first := (trials.printable_text.concat count).concat duration.printable_text
  exact (((first.concat unit).concat (lossrate.printable_fixed 6)).concat loss).concat flag

/-! ## Runs that are one computation -/

/-- **What is only shown reaches nothing else.**  A continuous flow and a throughput test of one
duration, and two bursts of one count, end alike at one desk: with the same record or the same
fault, with the same answers left, and with the same things shown but for the first two lines of
the announcement, or its second one.  The first two also leave the same log, as do bursts of one
frame rate. -/
theorem runs_agree (generator : Generator) (override : Option FlowConfig)
    (desk : Desk ScriptedOperator) :
    (∀ (duration framerate trials lossrate : Binary64) (multistream multistream' : Bool),
        Agree (Desk.Beside (Retold AlikeFromThird desk.console) Eq) Unexcused
          (generator.continuous ⟨override, duration, framerate, multistream⟩ desk)
          (generator.throughput ⟨override, trials, duration, lossrate, multistream'⟩ desk)) ∧
      ∀ numpkts time time' framerate framerate' : Binary64,
        Agree
          (Desk.Beside (Retold AlikeButSecond desk.console) fun a b =>
            framerate = framerate' → a = b)
          Unexcused
          (generator.burst ⟨override, numpkts, time, framerate⟩ desk)
          (generator.burst ⟨override, numpkts, time', framerate'⟩ desk) := by
  have continuous : Printable "continuous".toList := by decide +kernel
  have throughput : Printable "throughput".toList := by decide +kernel
  have burst : Printable "burst".toList := by decide +kernel
  constructor
  · intro duration framerate trials lossrate multistream multistream'
    refine measure_agree (fun flow => ?_) generator override duration desk
    have first := printable_continuousStream duration framerate multistream
    have second := printable_throughputStream trials duration lossrate multistream'
    exact ⟨_, _, _, _, _, Dialogue.announcement_inLines continuous first flow,
      Dialogue.announcement_inLines throughput second flow⟩
  · intro numpkts time time' framerate framerate'
    refine burst_agree (fun flow => ?_) generator override desk
    have first := printable_burstStream numpkts time
    have second := printable_burstStream numpkts time'
    exact ⟨_, _, _, _, Dialogue.announcement_inLines burst first flow,
      Dialogue.announcement_inLines burst second flow⟩

end Generator

end ManualTraffic
