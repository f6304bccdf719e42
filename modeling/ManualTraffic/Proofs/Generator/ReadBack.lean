/-
# ManualTraffic.Proofs.Generator.ReadBack -- an announcement can be read back

An announcement names the kind of the test in its first line and has the text about the stream
for its second one.  Then the marker line stands, and it stands nowhere else: the lines before it
are other lines, and those behind it, of the configuration in JSON, start with a space or a
bracket.  So the text behind the marker is found, and it parses to what it keeps of the
configuration, whose keys each show once and in key order.  What is read back (`ReadsBack`) is
determined by the text (`ReadsBack.unique`).
-/
import ManualTraffic.Proofs.FlowConfig.Shown
import ManualTraffic.Proofs.Generator.Presentation
import ManualTraffic.Proofs.Json.Lines
import ManualTraffic.Proofs.Json.ReadBack

namespace ManualTraffic

set_option autoImplicit false

/-! ## Two lines and a rest -/

namespace Text

variable {text first second rest first' second' rest' : String}

theorem toList_feed : "\n".toList = LineBreak.feed.text := by decide +kernel

theorem lines_feed {line rest : List Char} (unbroken : Unbroken line) :
    lines (line ++ (LineBreak.feed.text ++ rest)) = line :: lines rest := by
  have apart : LineBreak.feed = .carriage → rest.head? ≠ some '\n' := nofun
  exact lines_ended unbroken apart

theorem InLines.lines (inLines : InLines text first second rest) :
    Text.lines text.toList = first.toList :: second.toList :: Text.lines rest.toList := by
  have split : text.toList = first.toList ++ (LineBreak.feed.text ++
      (second.toList ++ (LineBreak.feed.text ++ rest.toList))) := by
    simp only [inLines.text_eq, String.toList_append, toList_feed, List.append_assoc]
  rw [split, lines_feed inLines.first, lines_feed inLines.second]

theorem InLines.unique (inLines : InLines text first second rest)
    (inLines' : InLines text first' second' rest') :
    first = first' ∧ second = second' ∧ rest = rest' := by
  have same := inLines.lines.symm.trans inLines'.lines
  obtain ⟨firsts, later⟩ := List.cons.inj same
  obtain ⟨seconds, -⟩ := List.cons.inj later
  obtain rfl := String.toList_inj.1 firsts
  obtain rfl := String.toList_inj.1 seconds
  refine ⟨rfl, rfl, ?_⟩
  have whole := inLines.text_eq.symm.trans inLines'.text_eq
  simpa using whole

end Text

open Text (InLines Printable)

namespace Dialogue

variable {text kind stream kind' stream' : String} {flow flow' : FlowConfig}

/-- The line that stands before the configuration. -/
def marker : String := "and the following flow config:"

/-- A kind, the text about a stream and a configuration are read back from a text: the marker
line stands once in it, the kind and the stream stand before it, and the text behind it parses to
what JSON text keeps of the configuration's own entries. -/
structure ReadsBack (text kind stream : String) (flow : FlowConfig) : Prop where
  once : (Text.lines text.toList).count marker.toList = 1
  read : ∃ after, InLines text (kindLine kind) stream (marker ++ "\n" ++ after) ∧
    Json.parse? after.toList = some flow.toJson.legible

theorem kindLine_inj (same : kindLine kind = kindLine kind') : kind = kind' := by
  simpa [kindLine] using same

/-- What is read back is determined by the text. -/
theorem ReadsBack.unique (reads : ReadsBack text kind stream flow)
    (reads' : ReadsBack text kind' stream' flow') :
    kind = kind' ∧ stream = stream' ∧ flow.toJson.legible = flow'.toJson.legible := by
  obtain ⟨after, inLines, parsed⟩ := reads.read
  obtain ⟨after', inLines', parsed'⟩ := reads'.read
  obtain ⟨kinds, streams, rests⟩ := inLines.unique inLines'
  have afters : after = after' := by simpa using rests
  refine ⟨kindLine_inj kinds, streams, Option.some.inj ?_⟩
  rw [← parsed, ← parsed', afters]

theorem flowLines_eq (flow : FlowConfig) :
    flowLines flow = marker ++ "\n" ++ flow.toJson.indented 4 := by
  have line : "and the following flow config:\n" = "and the following flow config:" ++ "\n" := by
    decide +kernel
  exact congrArg (· ++ flow.toJson.indented 4) line

theorem unbroken_marker : Text.Unbroken marker.toList := by
  have printable : Printable "and the following flow config:".toList := by decide +kernel
  exact printable.unbroken

theorem head?_marker : marker.toList.head? = some 'a' := by
  have front : "and the following flow config:".toList.head? = some 'a' := by decide +kernel
  exact front

theorem kindLine_ne_marker : (kindLine kind).toList ≠ marker.toList := by
  have starts' : (kindLine kind).toList.head? = some 'P' := by
    have front : "Please send '".toList = 'P' :: "lease send '".toList := by decide +kernel
    rw [kindLine, String.toList_append, String.toList_append, front]
    rfl
  intro same
  rw [same, head?_marker] at starts'
  cases starts'

/-- An announcement is read back. -/
theorem announcement_readsBack (kinds : Printable kind.toList) (streams : Printable stream.toList)
    (other : stream ≠ marker) (keyed : flow.toJson.Keyed) :
    ReadsBack (announcement kind stream flow) kind stream flow := by
  have inLines := announcement_inLines kinds streams flow
  rw [flowLines_eq] at inLines
  refine ⟨?_, _, inLines, Json.parse?_indented 4 keyed⟩
  have later : marker.toList ∉ Text.lines (flow.toJson.indented 4).toList := by
    intro listed
    obtain ⟨c, first, opening⟩ := Json.opening_of_mem_indented _ 3 listed
    rw [head?_marker] at first
    cases first
    exact absurd opening (by decide)
  rw [inLines.lines, String.toList_append, String.toList_append, Text.toList_feed, List.append_assoc,
    Text.lines_feed unbroken_marker, List.count_cons_of_ne kindLine_ne_marker,
    List.count_cons_of_ne fun same => other (String.toList_inj.1 same), List.count_cons_self,
    List.count_eq_zero.2 later]

/-- The marker ends in a colon, and no text about a stream does. -/
theorem ne_marker {front tail : String} {c : Char} (last : tail.toList.getLast? = some c)
    (other : c ≠ ':') : front ++ tail ≠ marker := by
  intro same
  have colon : marker.toList.getLast? = some ':' := by
    have back : "and the following flow config:".toList.getLast? = some ':' := by decide +kernel
    exact back
  rw [← same, String.toList_append, List.getLast?_append, last] at colon
  exact other (Option.some.inj colon)

end Dialogue

namespace Generator

open Dialogue (ReadsBack marker)

variable {σ α : Type} [Console σ] {generator : Generator} {errand : Errand} {desk : Desk σ}
  {result : EStateM.Result Fault (Desk σ) α}

/-- A generator sends only configurations that show each key once, in key order, at any depth,
whatever its defaults and the override are. -/
theorem keyed_of_effective {override : Option FlowConfig} {flow : FlowConfig}
    (merged : generator.effective override = .ok flow) : flow.toJson.Keyed := by
  cases override with
  | none =>
      cases merged
      exact FlowConfig.keyed_clone
  | some override => exact FlowConfig.keyed_merge (merge_of_effective merged)

/-- A test leaves the console alone, or it prints an announcement that can be read back, and then
asks for its statistics and does nothing else there. -/
def AnnouncesReadably (generator : Generator) (errand : Errand) (desk : Desk σ)
    (result : EStateM.Result Fault (Desk σ) α) : Prop :=
  (endState result).console = desk.console ∨
    ∃ flow text, generator.effective errand.override = .ok flow ∧
      ReadsBack text errand.kind errand.stream flow ∧
      (endState result).console =
        endState (Dialogue.collect errand.stats (Console.emit (.print text) desk.console))

theorem Carried.announcesReadably {figures : Binary64 → (String → Binary64) → α}
    (carried : Carried generator errand figures desk result)
    (kinds : Text.Printable errand.kind.toList) (streams : Text.Printable errand.stream.toList)
    (other : errand.stream ≠ marker) : AnnouncesReadably generator errand desk result := by
  rcases carried.console with ⟨fault, journal, rfl⟩ | ⟨flow, framesize, prepared, same⟩
  · exact .inl rfl
  · have reads := Dialogue.announcement_readsBack kinds streams other
      (keyed_of_effective prepared.merged)
    refine .inr ⟨flow, _, prepared.merged, reads, ?_⟩
    rw [same, Errand.announce, Dialogue.announce_eq]

/-- **Announcements can be read back.**  A test of a generator leaves the console alone, or it
prints one announcement there, from which its kind, the text about its stream and the own entries
of its configuration are read back, those as far as JSON text keeps them; then only the
statistics are asked for.  Nothing else can be read from an announcement. -/
theorem announcements_read_back :
    (∀ (generator : Generator) {σ : Type} [Console σ] (desk : Desk σ),
      (∀ plan, AnnouncesReadably generator (burstErrand plan) desk (generator.burst plan desk)) ∧
      (∀ plan, AnnouncesReadably generator (continuousErrand plan) desk (generator.continuous plan desk)) ∧
      ∀ plan, AnnouncesReadably generator (throughputErrand plan) desk (generator.throughput plan desk)) ∧
    ∀ text kind stream flow kind' stream' flow', ReadsBack text kind stream flow →
      ReadsBack text kind' stream' flow' →
        kind = kind' ∧ stream = stream' ∧ flow.toJson.legible = flow'.toJson.legible := by
  refine ⟨fun generator σ _ desk => ⟨fun plan => ?_, fun plan => ?_, fun plan => ?_⟩,
    fun text kind stream flow kind' stream' flow' reads reads' => reads.unique reads'⟩
  · have carried := (burst_carries generator plan).carried burstStats_nodup desk
    have unit : "mS".toList.getLast? = some 'S' := by decide +kernel
    have kinds : Text.Printable "burst".toList := by decide +kernel
    exact carried.announcesReadably kinds (printable_burstStream plan.numpkts plan.time)
      (Dialogue.ne_marker unit (by decide))
  · have carried := (continuous_carries generator plan).carried throughputStats_nodup desk
    have kinds : Text.Printable "continuous".toList := by decide +kernel
    refine carried.announcesReadably kinds
      (printable_continuousStream plan.time plan.framerate plan.multistream) ?_
    have flag : (if plan.multistream then "true" else "false").toList.getLast? = some 'e' := by
      cases plan.multistream <;> decide +kernel
    exact Dialogue.ne_marker flag (by decide)
  · have carried := (throughput_carries generator plan).carried throughputStats_nodup desk
    have kinds : Text.Printable "throughput".toList := by decide +kernel
    refine carried.announcesReadably kinds (printable_throughputStream plan.trials plan.duration
      plan.lossrate plan.multistream) ?_
    have flag : (if plan.multistream then "enabled" else "disabled").toList.getLast? =
        some 'd' := by
      cases plan.multistream <;> decide +kernel
    exact Dialogue.ne_marker flag (by decide)

/-- A key that would forge the marker line, with a number that JSON has no text for: the marker
line stands once all the same, and nothing but null is read back of the number. -/
theorem announcements_read_back_forged :
    let forged : FlowConfig := .scalar "\nand the following flow config:\n" (.number .nan)
      (.ofFrameSize (.ofNat true 0))
    let generator : Generator := ⟨forged⟩
    let plan := BurstOptions.plan {}
    let desk : Desk ScriptedOperator := ⟨⟨[], []⟩, ⟨none, []⟩⟩
    ∃ text, (endState (generator.burst plan desk)).console.shown.head? = some (.print text) ∧
      ReadsBack text "burst" (burstErrand plan).stream forged ∧
      ∀ kind stream flow, ReadsBack text kind stream flow →
        kind = "burst" ∧ stream = (burstErrand plan).stream ∧
        flow.toJson.legible = .object [("\nand the following flow config:\n", .null),
          ("l2", .object [("framesize", .number .zero)])] := by
  intro forged generator plan desk
  obtain ⟨tests, unique⟩ := announcements_read_back
  rcases (tests generator desk).1 plan with silent | ⟨flow, text, merged, reads, told⟩
  · have shown : (endState (generator.burst plan desk)).console.shown ≠ [] := by decide +kernel
    rw [silent] at shown
    exact absurd rfl shown
  · cases merged
    refine ⟨text, ?_, reads, fun kind stream flow reads' => ?_⟩
    · rw [told]
      rfl
    · obtain ⟨kinds, streams, same⟩ := unique _ _ _ _ _ _ _ reads reads'
      have zero : (Binary64.ofNat true 0).isFinite = true ∧
          (Binary64.ofNat true 0).withoutZeroSign = .zero := by decide +kernel
      have kept : forged.toJson.legible = .object
          [("\nand the following flow config:\n", .null),
            ("l2", .object [("framesize", if (Binary64.ofNat true 0).isFinite then
              .number (Binary64.ofNat true 0).withoutZeroSign else .null)])] := rfl
      rw [zero.1, zero.2] at kept
      exact ⟨kinds.symm, streams.symm, same.symm.trans kept⟩

end Generator

end ManualTraffic
