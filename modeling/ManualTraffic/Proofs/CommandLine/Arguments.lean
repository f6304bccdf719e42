/-
# ManualTraffic.Proofs.CommandLine.Arguments -- the argument of an option that counts

The words of a command line give arguments to options (`Flag.arguments`), and of several
arguments to one option the last one counts (`Flag.given?`).  Where one option alone fills a
field of a request (`Flag.Fills`), sorting leaves in it what that argument is read as, or what
was there at the start where none is given (`Flag.settled_sort`).
-/
import ManualTraffic.Proofs.CommandLine.Shared
import ManualTraffic.Proofs.CommandLine.Sorting

namespace ManualTraffic

set_option autoImplicit false

namespace Flag

variable {ρ α : Type} {flags : List (Flag ρ)} {flag : Flag ρ} {word long argument : String}
  {words : List String} {request after : ρ} {sorted : Sorted ρ}
  {read : String → ρ → Except String ρ} {parse : String → Except String α} {get : ρ → α}

/-! ## Arguments -/

/-- The arguments that are given from a word in a role on. -/
def Role.arguments (next : List String → List (String × String)) (words : List String) :
    Role ρ → List (String × String)
  | .ends => []
  | .switches _ => next words
  | .takes flag _ =>
      match words with
      | [] => []
      | argument :: words => (flag.long, argument) :: next words
  | .peels _ rest => next (String.ofList ('-' :: rest) :: words)
  | .holds flag _ argument => (flag.long, argument) :: next words
  | .other => next words

/-- The arguments that words give, in order, each with the long name of its option. -/
def arguments (flags : List (Flag ρ)) : Nat → List String → List (String × String)
  | 0, _ => []
  | _, [] => []
  | fuel + 1, word :: words => (role flags word).arguments (arguments flags fuel) words

/-- The last of the arguments for an option. -/
def last? (long : String) (given : List (String × String)) : Option String :=
  given.reverse.lookup long

/-- The argument that words give to an option.  Of several the last one counts. -/
def given? (flags : List (Flag ρ)) (words : List String) (long : String) : Option String :=
  last? long (arguments flags (room words) words)

theorem last?_cons (first : String × String) (given : List (String × String)) :
    last? long (first :: given) = (last? long given).or (last? long [first]) := by
  rw [last?, List.reverse_cons, List.lookup_append]
  rfl

/-! ## Roles come from flags -/

/-- What a role does is the effect of one of some flags. -/
def Role.From (flags : List (Flag ρ)) : Role ρ → Prop
  | .ends | .other => True
  | .switches set | .peels set _ => ∃ flag ∈ flags, flag.effect = .switch set
  | .takes flag read | .holds flag read _ =>
      flag ∈ flags ∧ ∃ name, flag.effect = .argument name read

theorem from_alone (member : flag ∈ flags) : flag.alone.From flags := by
  unfold alone
  split
  · rename_i sets
    exact ⟨flag, member, sets⟩
  · rename_i reads
    exact ⟨member, _, reads⟩

theorem from_leading (rest : List Char) (member : flag ∈ flags) :
    (flag.leading rest).From flags := by
  unfold leading
  split
  · rename_i sets
    exact ⟨flag, member, sets⟩
  · rename_i reads
    exact ⟨member, _, reads⟩

theorem from_assigned (argument : String) (member : flag ∈ flags) :
    (flag.assigned argument).From flags := by
  unfold assigned
  split
  · trivial
  · rename_i reads
    exact ⟨member, _, reads⟩

theorem from_find? {p : Flag ρ → Bool} {build : Flag ρ → Role ρ}
    (built : ∀ flag ∈ flags, (build flag).From flags) :
    ((flags.find? p).elim .other build).From flags := by
  cases found : flags.find? p with
  | none => trivial
  | some flag => exact built flag (List.mem_of_find?_eq_some found)

theorem role_from (flags : List (Flag ρ)) (word : String) : (role flags word).From flags := by
  unfold role
  split
  · trivial
  · split
    · rename_i named
      exact from_alone (List.mem_of_find?_eq_some named)
    · split
      · exact from_find? fun _ => from_leading _
      · split
        · exact from_find? fun _ => from_assigned _
        · trivial

/-! ## Fields -/

/-- How a flag bears on the field `get`: the option of the long name puts there what it reads
its argument as, and no other flag changes it. -/
inductive Fills (long : String) (parse : String → Except String α) (get : ρ → α)
    (flag : Flag ρ) : Prop where
  | here {name : String} {read : String → ρ → Except String ρ} (named : flag.long = long)
      (reads : flag.effect = .argument name read)
      (fills : ∀ argument request after, read argument request = .ok after →
        parse argument = .ok (get after))
  | beside (named : flag.long ≠ long)
      (keeps : ∀ value, flag.effect.Keeps fun request => get request = value)

/-- A field goes from one value to another: by the argument that is given, else not at all. -/
def Settled (parse : String → Except String α) (before after : α) : Option String → Prop
  | none => after = before
  | some argument => parse argument = .ok after

theorem Settled.trans {before between after : α} {first second : Option String}
    (early : Settled parse before between first) (late : Settled parse between after second) :
    Settled parse before after (second.or first) := by
  cases second with
  | some argument => exact late
  | none =>
      rw [Option.none_or, show after = between from late]
      exact early

theorem Fills.switch {set : ρ → ρ} (fills : flag.Fills long parse get)
    (sets : flag.effect = .switch set) : get (set request) = get request := by
  cases fills with
  | here _ reads =>
      rw [sets] at reads
      cases reads
  | beside _ keeps =>
      have kept := keeps (get request)
      rw [sets] at kept
      exact kept request rfl

theorem Fills.settled {name : String} (fills : flag.Fills long parse get)
    (reads : flag.effect = .argument name read)
    (applied : flag.apply read argument request = .ok after) :
    Settled parse (get request) (get after) (last? long [(flag.long, argument)]) := by
  cases fills with
  | here named reads' fills =>
      rw [reads] at reads'
      cases reads'
      unfold apply at applied
      split at applied
      · rename_i done
        cases applied
        have given : last? long [(flag.long, argument)] = some argument := by
          simp [last?, named]
        rw [given]
        exact fills argument request after done
      · cases applied
  | beside named keeps =>
      have absent : last? long [(flag.long, argument)] = none := by
        simp [last?, Ne.symm named]
      rw [absent]
      exact (Takes.argument reads applied).keeps (keeps (get request)) rfl

theorem request_keep (unknown : Bool) (word : String) (sorted : Sorted ρ) :
    (keep unknown word sorted).request = sorted.request := by
  unfold keep
  split <;> rfl

/-- An argument is read, and what comes behind it settles the field. -/
theorem Fills.settled_bind {name : String} {next : ρ → Except UsageFault (Sorted ρ)}
    {behind : List (String × String)} (fills : flag.Fills long parse get)
    (reads : flag.effect = .argument name read)
    (later : ∀ after, next after = .ok sorted →
      Settled parse (get after) (get sorted.request) (last? long behind))
    (done : flag.apply read argument request >>= next = .ok sorted) :
    Settled parse (get request) (get sorted.request)
      (last? long ((flag.long, argument) :: behind)) := by
  cases applied : flag.apply read argument request with
  | error fault =>
      rw [applied] at done
      cases done
  | ok after =>
      rw [applied] at done
      rw [last?_cons]
      exact (fills.settled reads applied).trans (later after done)

theorem settled_sortFrom (fill : ∀ flag ∈ flags, flag.Fills long parse get) {fuel : Nat}
    {unknown : Bool} (done : sortFrom flags fuel unknown words request = .ok sorted) :
    Settled parse (get request) (get sorted.request) (last? long (arguments flags fuel words)) := by
  induction fuel generalizing unknown words request sorted with
  | zero =>
      rw [sortFrom] at done
      cases done
      rfl
  | succ fuel ih =>
      cases words with
      | nil =>
          rw [sortFrom_nil] at done
          cases done
          rfl
      | cons word words =>
          have origin := role_from flags word
          rw [sortFrom_cons] at done
          rw [arguments]
          cases played : role flags word with
          | ends =>
              rw [played] at done
              cases done
              cases unknown <;> rfl
          | switches set =>
              rw [played] at done origin
              obtain ⟨flag, member, sets⟩ := origin
              rw [← (fill flag member).switch sets]
              exact ih done
          | takes flag read =>
              rw [played] at done origin
              obtain ⟨member, name, reads⟩ := origin
              cases words with
              | nil => cases done
              | cons argument words =>
                  exact (fill flag member).settled_bind reads (fun _ => ih) done
          | peels set rest =>
              rw [played] at done origin
              obtain ⟨flag, member, sets⟩ := origin
              rw [← (fill flag member).switch sets]
              exact ih done
          | holds flag read argument =>
              rw [played] at done origin
              obtain ⟨member, name, reads⟩ := origin
              exact (fill flag member).settled_bind reads (fun _ => ih) done
          | other =>
              rw [played, Role.follow] at done
              cases later : sortFrom flags fuel (unknown || looksLike word) words request with
              | error fault =>
                  rw [later] at done
                  cases done
              | ok before =>
                  rw [later] at done
                  cases done
                  rw [request_keep]
                  exact ih later

/-- **The argument that counts.**  Where one option alone fills a field, sorting leaves there
what its last argument is read as, or the field as it was. -/
theorem settled_sort (fill : ∀ flag ∈ flags, flag.Fills long parse get)
    (done : sort flags words request = .ok sorted) :
    Settled parse (get request) (get sorted.request) (given? flags words long) :=
  settled_sortFrom fill done

/-- Words that are sorted give no argument to an option that there is not. -/
theorem given?_eq_none (absent : ∀ flag ∈ flags, flag.long ≠ long)
    (done : sort flags words request = .ok sorted) : given? flags words long = none := by
  -- no flag reads the argument of such an option, so reading it might as well always fail
  have fill : ∀ flag ∈ flags, flag.Fills long (fun _ => .error "") (fun _ => ()) :=
    fun flag member => .beside (absent flag member) fun _ => by
      cases effect : flag.effect <;> simp [FlagEffect.Keeps]
  have settled := settled_sort fill done
  cases given : given? flags words long with
  | none => rfl
  | some argument =>
      rw [given] at settled
      cases settled

end Flag

/-! ## Command lines -/

namespace Command

variable {words : List String} {sorted : Sorted (Request (List Test))}

theorem mem_of_ofName? {name : String} {command : Command}
    (named : ofName? name = some command) : command ∈ list ∧ command.name = name := by
  unfold ofName? at named
  exact ⟨List.mem_of_find?_eq_some named,
    of_decide_eq_true (List.find?_some (p := fun command : Command => command.name = name) named)⟩

/-- The argument that words give to an option of the command of a name. -/
def given? (name : String) (words : List String) : String → Option String :=
  match name with
  | "burst" => Flag.given? (Request.burstFlags ++ Request.commonFlags) words
  | "continuous" => Flag.given? (Request.continuousFlags ++ Request.commonFlags) words
  | "throughput" => Flag.given? (Request.throughputFlags ++ Request.commonFlags) words
  | _ => Flag.given? (Request.commonFlags (π := Unit)) words

theorem sorted_make {π : Type} {name description : String} {own : List (Flag (Request π))}
    {start : π} {tests : π → List Test}
    (done : (make name description own start tests).sort words = .ok sorted) :
    ∃ before : Sorted (Request π),
      Flag.sort (own ++ Request.commonFlags) words { plan := start } = .ok before ∧
        sorted.request = { before.request with plan := tests before.request.plan } := by
  simp only [make] at done
  split at done
  · rename_i before sorting
    cases done
    exact ⟨before, sorting, rfl⟩
  · cases done

end Command

namespace Invocation

variable {words : List String} {request : Request (List Test)}

/-- The argument that a command line gives to an option of the command that it names. -/
def given? (words : List String) (long : String) : Option String :=
  match Flag.sort Command.programFlags words false with
  | .ok ⟨_, name :: _, unknown⟩ => Command.given? name unknown long
  | _ => none

/-- A command line that asks for a run gives its options to the command that it names. -/
theorem given?_of_run (asked : ofWords words = .run request) :
    ∃ command ∈ Command.list, ∃ unknown sorted, command.sort unknown = .ok sorted ∧
      request = sorted.request ∧ given? words = Command.given? command.name unknown := by
  unfold ofWords at asked
  split at asked
  · cases asked
  · cases asked
  · split at asked
    · exact absurd asked withoutCommand_ne_run
    · rename_i name more sorting
      split at asked
      · rename_i command named
        obtain ⟨sorted, sorting', same⟩ := run_of_ofCommand asked
        obtain ⟨listed, spelled⟩ := Command.mem_of_ofName? named
        refine ⟨command, listed, _, sorted, sorting', same, ?_⟩
        funext long
        rw [given?, sorting, spelled]
      · split at asked
        · exact absurd asked ofHelp_ne_run
        · exact absurd asked withoutCommand_ne_run

end Invocation

end ManualTraffic
