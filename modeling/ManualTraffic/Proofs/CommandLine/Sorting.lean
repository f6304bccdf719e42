/-
# ManualTraffic.Proofs.CommandLine.Sorting -- what sorting keeps of a request

Sorting a command line changes the request by applying flags, and by nothing else.  What
every flag keeps is therefore kept by the whole of it (`Flag.keeps_sort`).  All flags
keep that the override was read from an argument, since one of them alone sets it, and so
it is in every request that a command line asks for (`Invocation.read_flow`).  What is read
from a text holds no key twice (`Invocation.distinct_flow`).
-/
import ManualTraffic.CommandLine.Command
import ManualTraffic.Proofs.FlowConfig.Parsed

namespace ManualTraffic

set_option autoImplicit false

/-- An effect keeps a property of requests. -/
def FlagEffect.Keeps {ρ : Type} (I : ρ → Prop) : FlagEffect ρ → Prop
  | .switch set => ∀ request, I request → I (set request)
  | .argument _ read => ∀ argument request after, I request →
      read argument request = .ok after → I after

/-! ## Sorting -/

namespace Flag

variable {ρ : Type} {I : ρ → Prop} {flags : List (Flag ρ)} {flag : Flag ρ}
  {read : String → ρ → Except String ρ} {argument name word : String} {request after : ρ}
  {words : List String}

/-- A flag takes a request to another one: its switch is set, or its argument is read. -/
inductive Takes (flag : Flag ρ) (request : ρ) : ρ → Prop where
  | switch {set : ρ → ρ} (sets : flag.effect = .switch set) : Takes flag request (set request)
  | argument {name argument : String} {read : String → ρ → Except String ρ} {after : ρ}
      (reads : flag.effect = .argument name read)
      (applied : flag.apply read argument request = .ok after) : Takes flag request after

theorem Takes.keeps (takes : flag.Takes request after) (keeps : flag.effect.Keeps I)
    (holds : I request) : I after := by
  cases takes with
  | switch sets =>
      rw [sets] at keeps
      exact keeps request holds
  | @argument _ argument read _ reads applied =>
      rw [reads] at keeps
      unfold apply at applied
      split at applied
      · rename_i done
        cases applied
        exact keeps argument request after holds done
      · cases applied

theorem mem_of_group? {rest : List Char}
    (found : sortFrom.group? flags word = some (flag, rest)) : flag ∈ flags := by
  unfold sortFrom.group? at found
  split at found
  · split at found
    · cases found
    · obtain ⟨first, named, same⟩ := Option.map_eq_some_iff.1 found
      cases same
      exact List.mem_of_find?_eq_some named
  · cases found

theorem mem_of_assigned? (found : sortFrom.assigned? flags word = some (flag, read, argument)) :
    flag ∈ flags ∧ ∃ name, flag.effect = .argument name read := by
  unfold sortFrom.assigned? at found
  split at found
  · cases found
  · split at found
    · cases found
    · rename_i named
      split at found
      · cases found
      · rename_i reads
        cases found
        exact ⟨List.mem_of_find?_eq_some named, _, reads⟩

/-- What sorting does at a word: it ends, or a flag takes the request on, or the word is
put with its like. -/
theorem sortFrom_cons_cases {fuel : Nat} {unknown : Bool} {sorted : Sorted ρ}
    (done : sortFrom flags (fuel + 1) unknown (word :: words) request = .ok sorted) :
    sorted.request = request ∨
      (∃ flag ∈ flags, ∃ later after, flag.Takes request after ∧
        sortFrom flags fuel unknown later after = .ok sorted) ∨
      ∃ seen before, sortFrom flags fuel seen words request = .ok before ∧
        sorted = keep seen word before := by
  rw [sortFrom] at done
  split at done
  · cases done
    refine .inl ?_
    split <;> rfl
  · split at done
    -- the word is a flag
    · rename_i flag named
      have member := List.mem_of_find?_eq_some named
      split at done
      · rename_i sets
        exact .inr (.inl ⟨flag, member, _, _, .switch sets, done⟩)
      · rename_i reads
        split at done
        · cases done
        · split at done
          · cases done
          · rename_i applied
            exact .inr (.inl ⟨flag, member, _, _, .argument reads applied, done⟩)
    · split at done
      -- the word is a group that a flag starts
      · rename_i flag rest grouped
        have member := mem_of_group? grouped
        split at done
        · rename_i sets
          exact .inr (.inl ⟨flag, member, _, _, .switch sets, done⟩)
        · rename_i reads
          split at done
          · cases done
          · rename_i applied
            exact .inr (.inl ⟨flag, member, _, _, .argument reads applied, done⟩)
      · split at done
        -- the word is a flag and its argument
        · rename_i flag read argument assigned
          obtain ⟨member, name, reads⟩ := mem_of_assigned? assigned
          split at done
          · cases done
          · rename_i applied
            exact .inr (.inl ⟨flag, member, _, _, .argument reads applied, done⟩)
        · dsimp only at done
          split at done
          · cases done
          · rename_i before later
            cases done
            exact .inr (.inr ⟨_, before, later, rfl⟩)

/-- What every flag keeps, sorting keeps. -/
theorem keeps_sortFrom (each : ∀ flag ∈ flags, flag.effect.Keeps I) {fuel : Nat} {unknown : Bool}
    {sorted : Sorted ρ} (holds : I request)
    (done : sortFrom flags fuel unknown words request = .ok sorted) : I sorted.request := by
  induction fuel generalizing unknown words request sorted with
  | zero =>
      rw [sortFrom] at done
      cases done
      exact holds
  | succ fuel ih =>
      cases words with
      | nil =>
          simp only [sortFrom] at done
          cases done
          exact holds
      | cons word words =>
          rcases sortFrom_cons_cases done with
            same | ⟨flag, member, later, after, takes, goesOn⟩ | ⟨seen, before, goesOn, rfl⟩
          · rwa [same]
          · exact ih (takes.keeps (each flag member) holds) goesOn
          · have kept := ih holds goesOn
            unfold keep
            split <;> exact kept

theorem keeps_sort (each : ∀ flag ∈ flags, flag.effect.Keeps I) {sorted : Sorted ρ}
    (holds : I request) (done : sort flags words request = .ok sorted) : I sorted.request :=
  keeps_sortFrom each holds done

end Flag

/-! ## Overrides of requests -/

namespace Request

variable {π : Type}

/-- The override that a request gives was read from an argument. -/
def ReadFlow (request : Request π) : Prop :=
  ∀ flow, request.flow = some flow → ∃ argument, config argument = .ok flow

/-- The override that a request gives holds no key twice. -/
def DistinctFlow (request : Request π) : Prop :=
  ∀ config, request.flow = some config → config.Distinct

/-- An argument is read as a configuration when it is a JSON text that is accepted as one. -/
theorem parsed_of_config {argument : String} {flow : FlowConfig}
    (read : config argument = .ok flow) :
    ∃ value, Json.parse? argument.toList = some value ∧ FlowConfig.ofJson? value = some flow := by
  unfold config at read
  split at read
  · cases read
  · rename_i value parsed
    split at read
    · cases read
    · rename_i made
      cases read
      exact ⟨value, parsed, made⟩

theorem ReadFlow.distinctFlow {request : Request π} (read : request.ReadFlow) :
    request.DistinctFlow := by
  intro flow given
  obtain ⟨argument, read⟩ := read flow given
  obtain ⟨value, parsed, made⟩ := parsed_of_config read
  exact FlowConfig.distinct_of_parse parsed made

theorem keeps_reading {α : Type} {name : String} {read : String → Except String α}
    {put : Request π → α → Request π}
    (keeps : ∀ request argument value, request.ReadFlow → read argument = .ok value →
      (put request value).ReadFlow) :
    (reading name read put).Keeps ReadFlow := by
  intro argument request after holds done
  dsimp only at done
  split at done
  · rename_i value given
    cases done
    exact keeps request argument value holds given
  · cases done

/-- An argument of the plan leaves the override alone. -/
theorem keeps_planning {α : Type} {name : String} {read : String → Except String α}
    {put : π → α → π} : (planning name read put).Keeps ReadFlow :=
  keeps_reading fun _ _ _ holds _ => holds

theorem commonFlags_keep : ∀ flag ∈ commonFlags (π := π), flag.effect.Keeps ReadFlow := by
  simp only [commonFlags, List.forall_mem_cons]
  refine ⟨keeps_reading fun _ _ _ holds _ => holds, keeps_reading ?_,
    keeps_reading fun _ _ _ holds _ => holds, keeps_reading fun _ _ _ holds _ => holds, nofun⟩
  intro request argument flow _ read config given
  cases given
  exact ⟨argument, read⟩

theorem burstFlags_keep : ∀ flag ∈ burstFlags, flag.effect.Keeps ReadFlow := by
  simp only [burstFlags, List.forall_mem_cons]
  exact ⟨keeps_planning, keeps_planning, keeps_planning, nofun⟩

theorem continuousFlags_keep : ∀ flag ∈ continuousFlags, flag.effect.Keeps ReadFlow := by
  simp only [continuousFlags, List.forall_mem_cons]
  exact ⟨keeps_planning, keeps_planning, fun _ holds => holds, nofun⟩

theorem throughputFlags_keep : ∀ flag ∈ throughputFlags, flag.effect.Keeps ReadFlow := by
  simp only [throughputFlags, List.forall_mem_cons]
  exact ⟨keeps_planning, keeps_planning, keeps_planning, fun _ holds => holds, nofun⟩

end Request

/-! ## Commands -/

namespace Command

variable {words : List String} {sorted : Sorted (Request (List Test))}

theorem read_make {π : Type} {name description : String} {own : List (Flag (Request π))}
    {start : π} {tests : π → List Test}
    (ownKeep : ∀ flag ∈ own, flag.effect.Keeps Request.ReadFlow)
    (done : (make name description own start tests).sort words = .ok sorted) :
    sorted.request.ReadFlow := by
  simp only [make] at done
  split at done
  · rename_i before sorting
    cases done
    have each : ∀ flag ∈ own ++ Request.commonFlags, flag.effect.Keeps Request.ReadFlow :=
      List.forall_mem_append.2 ⟨ownKeep, Request.commonFlags_keep⟩
    have empty : Request.ReadFlow ({ plan := start } : Request π) := nofun
    exact Flag.keeps_sort each empty sorting
  · cases done

theorem read_sort {command : Command} (listed : command ∈ list)
    (done : command.sort words = .ok sorted) : sorted.request.ReadFlow := by
  rcases listed with _ | ⟨_, _ | ⟨_, _ | ⟨_, _ | ⟨_, listed⟩⟩⟩⟩
  · exact read_make Request.burstFlags_keep done
  · exact read_make Request.continuousFlags_keep done
  · exact read_make Request.throughputFlags_keep done
  · exact read_make (List.forall_mem_nil _) done
  · cases listed

end Command

/-! ## Command lines -/

namespace Invocation

variable {words unknown : List String} {request : Request (List Test)}

theorem run_of_ofCommand {command : Command} (asked : ofCommand command unknown = .run request) :
    ∃ sorted, command.sort unknown = .ok sorted ∧ request = sorted.request := by
  unfold ofCommand at asked
  split at asked
  · cases asked
  · rename_i sorted sorting
    split at asked
    · cases asked
    · split at asked
      · cases asked
        exact ⟨sorted, sorting, rfl⟩
      · cases asked

theorem ofHelp_ne_run : ofHelp words ≠ .run request := by
  intro asked
  unfold ofHelp at asked
  split at asked
  · cases asked
  · split at asked
    · cases asked
    · split at asked <;> cases asked

theorem withoutCommand_ne_run {operands : List String} :
    withoutCommand operands unknown ≠ .run request := by
  intro asked
  unfold withoutCommand at asked
  split at asked
  · cases asked
  · split at asked <;> cases asked

/-- A command line that asks for a run names a command, which sorted its words. -/
theorem run_of_ofWords (asked : ofWords words = .run request) :
    ∃ command ∈ Command.list, ∃ unknown sorted, command.sort unknown = .ok sorted ∧
      request = sorted.request := by
  unfold ofWords at asked
  split at asked
  · cases asked
  · cases asked
  · split at asked
    · exact absurd asked withoutCommand_ne_run
    · split at asked
      · rename_i command named
        obtain ⟨sorted, sorting, same⟩ := run_of_ofCommand asked
        exact ⟨command, List.mem_of_find?_eq_some named, _, sorted, sorting, same⟩
      · split at asked
        · exact absurd asked ofHelp_ne_run
        · exact absurd asked withoutCommand_ne_run

/-- The override that a command line gives is one of its arguments. -/
theorem read_flow (asked : ofWords words = .run request) : request.ReadFlow := by
  obtain ⟨command, listed, unknown, sorted, sorting, rfl⟩ := run_of_ofWords asked
  exact Command.read_sort listed sorting

/-- The override that a command line gives holds no key twice. -/
theorem distinct_flow (asked : ofWords words = .run request) : request.DistinctFlow :=
  (read_flow asked).distinctFlow

end Invocation

end ManualTraffic
