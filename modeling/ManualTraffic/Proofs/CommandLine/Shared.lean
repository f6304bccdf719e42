/-
# ManualTraffic.Proofs.CommandLine.Shared -- command lines that differ in the command

The words behind the name of a command mean the same to two commands where they are names
and arguments of flags that both have.  A word plays one role in sorting (`Flag.role`), and
all that sorting does with it follows from that role (`Flag.sortFrom_cons`).  Further flags
give a new role only to words that would else be unknown options (`Flag.role_append`); so
where sorting leaves no word unknown, it does the same with them (`Flag.sort_append`).

Every command has the flags of `all`.  What is a run under `all` is therefore, under each
other command, a run of its test as it is without flags (`Invocation.run_of_all`).  There the
options of the test are those that the command line starts from, where `all` leaves them to the
generator.  The two choices are the same (`Command.start_eq`), so the tests measure the same
(`Test.measure_explicit`).
-/
import ManualTraffic.CommandLine.Command
import Mathlib.Data.List.Forall2

namespace ManualTraffic

set_option autoImplicit false

/-- Effects that do the same to a request and to what `f` makes of it. -/
inductive FlagEffect.Like {ρ τ : Type} (f : ρ → τ) : FlagEffect ρ → FlagEffect τ → Prop where
  | switch {set : ρ → ρ} {set' : τ → τ} (same : ∀ request, set' (f request) = f (set request)) :
      Like f (.switch set) (.switch set')
  | argument {name name' : String} {read : String → ρ → Except String ρ}
      {read' : String → τ → Except String τ}
      (same : ∀ argument request, read' argument (f request) = f <$> read argument request) :
      Like f (.argument name read) (.argument name' read')

namespace Flag

variable {ρ τ : Type} {flags own common : List (Flag ρ)} {flag : Flag ρ} {word name : String}
  {words : List String} {request : ρ} {unknown : Bool} {fuel fuel' : Nat}

/-! ## The role of a word -/

/-- What a word is to sorting. -/
inductive Role (ρ : Type) where
  /-- It ends the options. -/
  | ends
  /-- It names a switch. -/
  | switches (set : ρ → ρ)
  /-- It names a flag whose argument is the next word. -/
  | takes (flag : Flag ρ) (read : String → ρ → Except String ρ)
  /-- It is a group of letters, of which the first is a switch. -/
  | peels (set : ρ → ρ) (rest : List Char)
  /-- It is a flag and its argument. -/
  | holds (flag : Flag ρ) (read : String → ρ → Except String ρ) (argument : String)
  | other

/-- The role of a word that names a flag. -/
def alone (flag : Flag ρ) : Role ρ :=
  match flag.effect with
  | .switch set => .switches set
  | .argument _ read => .takes flag read

/-- The role of a group of letters that starts with a flag. -/
def leading (rest : List Char) (flag : Flag ρ) : Role ρ :=
  match flag.effect with
  | .switch set => .peels set rest
  | .argument _ read => .holds flag read (String.ofList rest)

/-- The role of a word that names a flag before an equals sign. -/
def assigned (argument : String) (flag : Flag ρ) : Role ρ :=
  match flag.effect with
  | .switch _ => .other
  | .argument _ read => .holds flag read argument

/-- The first letter of a group, and the rest of the group. -/
def letter? (word : String) : Option (Char × List Char) :=
  match word.toList with
  | '-' :: c :: d :: rest => if c = '-' then none else some (c, d :: rest)
  | _ => none

/-- The role of a word under some flags: the flag is looked up by the word itself, by a
letter or by a name before an equals sign. -/
def role (flags : List (Flag ρ)) (word : String) : Role ρ :=
  if word = "--" then .ends
  else
    match flags.find? (isNamed word) with
    | some flag => flag.alone
    | none =>
        match letter? word with
        | some (c, rest) =>
            (flags.find? fun flag => flag.short = some c).elim .other (leading rest)
        | none =>
            match splitLong? word with
            | some (name, argument) =>
                (flags.find? (isNamed name)).elim .other (assigned argument)
            | none => .other

/-- What sorting does with a word in a role, and how it goes on. -/
def Role.follow (next : Bool → List String → ρ → Except UsageFault (Sorted ρ)) (unknown : Bool)
    (word : String) (words : List String) (request : ρ) :
    Role ρ → Except UsageFault (Sorted ρ)
  | .ends => .ok (if unknown then ⟨request, [], word :: words⟩ else ⟨request, words, []⟩)
  | .switches set => next unknown words (set request)
  | .takes flag read =>
      match words with
      | [] => .error (.missingArgument flag.usage)
      | argument :: words => flag.apply read argument request >>= next unknown words
  | .peels set rest => next unknown (String.ofList ('-' :: rest) :: words) (set request)
  | .holds flag read argument => flag.apply read argument request >>= next unknown words
  | .other =>
      (keep (unknown || looksLike word) word) <$> next (unknown || looksLike word) words request

theorem letter?_eq_some {c : Char} {rest : List Char} (letter : letter? word = some (c, rest)) :
    ∃ d more, word.toList = '-' :: c :: d :: more ∧ c ≠ '-' ∧ rest = d :: more := by
  unfold letter? at letter
  split at letter
  · rename_i c d more letters
    split at letter
    · cases letter
    · rename_i apart
      cases letter
      exact ⟨d, more, letters, apart, rfl⟩
  · cases letter

theorem splitLong?_of_letter {c : Char} {rest : List Char}
    (letter : letter? word = some (c, rest)) : splitLong? word = none := by
  obtain ⟨d, more, letters, apart, -⟩ := letter?_eq_some letter
  unfold splitLong?
  rw [letters]
  split
  · rename_i long
    exact absurd (List.cons.inj (List.cons.inj long).2).1 apart
  · rfl

theorem group?_of_letter {c : Char} {rest : List Char} (letter : letter? word = some (c, rest)) :
    sortFrom.group? flags word =
      (flags.find? fun flag => flag.short = some c).map fun flag => (flag, rest) := by
  obtain ⟨d, more, letters, apart, rfl⟩ := letter?_eq_some letter
  unfold sortFrom.group?
  rw [letters]
  exact if_neg apart

theorem group?_of_none (letter : letter? word = none) : sortFrom.group? flags word = none := by
  cases found : sortFrom.group? flags word with
  | none => rfl
  | some grouped =>
      unfold sortFrom.group? at found
      split at found
      · rename_i c d more letters
        split at found
        · cases found
        · rename_i apart
          have group : letter? word = some (c, d :: more) := by
            unfold letter?
            rw [letters]
            exact if_neg apart
          rw [group] at letter
          cases letter
      · cases found

/-- Sorting does with a word what its role says. -/
theorem sortFrom_cons (flags : List (Flag ρ)) (fuel : Nat) (unknown : Bool) (word : String)
    (words : List String) (request : ρ) :
    sortFrom flags (fuel + 1) unknown (word :: words) request =
      (role flags word).follow (sortFrom flags fuel) unknown word words request := by
  rw [sortFrom, role]
  by_cases lone : word = "--"
  · rw [if_pos lone, if_pos lone]
    rfl
  rw [if_neg lone, if_neg lone]
  cases flags.find? (isNamed word) with
  | some flag =>
      simp only [alone]
      cases flag.effect with
      | switch set => rfl
      | argument name read =>
          cases words with
          | nil => rfl
          | cons argument words =>
              simp only [Role.follow]
              cases flag.apply read argument request <;> rfl
  | none =>
      simp only
      cases letter : letter? word with
      | some grouped =>
          obtain ⟨c, rest⟩ := grouped
          rw [group?_of_letter letter, sortFrom.assigned?, splitLong?_of_letter letter]
          dsimp only
          cases flags.find? fun flag => flag.short = some c with
          | some flag =>
              simp only [Option.map_some, Option.elim_some, leading]
              cases flag.effect with
              | switch set => rfl
              | argument name read =>
                  simp only [Role.follow]
                  cases flag.apply read (String.ofList rest) request <;> rfl
          | none =>
              simp only [Option.map_none, Option.elim_none, Role.follow]
              cases sortFrom flags fuel (unknown || looksLike word) words request <;> rfl
      | none =>
          rw [group?_of_none letter, sortFrom.assigned?]
          cases splitLong? word with
          | some assigned =>
              obtain ⟨name, argument⟩ := assigned
              simp only
              cases flags.find? (isNamed name) with
              | some flag =>
                  simp only [Option.elim_some, Flag.assigned]
                  cases flag.effect with
                  | switch set =>
                      simp only [Role.follow]
                      cases sortFrom flags fuel (unknown || looksLike word) words request <;> rfl
                  | argument name read =>
                      simp only [Role.follow]
                      cases flag.apply read argument request <;> rfl
              | none =>
                  simp only [Option.elim_none, Role.follow]
                  cases sortFrom flags fuel (unknown || looksLike word) words request <;> rfl
          | none =>
              simp only [Role.follow]
              cases sortFrom flags fuel (unknown || looksLike word) words request <;> rfl

theorem sortFrom_nil (flags : List (Flag ρ)) (fuel : Nat) (unknown : Bool) (request : ρ) :
    sortFrom flags fuel unknown [] request = .ok ⟨request, [], []⟩ := by
  cases fuel <;> rfl

/-! ## Fuel -/

/-- The fuel that words take. -/
def room (words : List String) : Nat := words.foldr (fun word fuel => word.length + 1 + fuel) 0

theorem room_cons (word : String) (words : List String) :
    room (word :: words) = word.length + 1 + room words := rfl

theorem sort_eq (flags : List (Flag ρ)) (words : List String) (request : ρ) :
    sort flags words request = sortFrom flags (room words) false words request := rfl

/-- What is left of a group is shorter than the group. -/
theorem length_of_letter {c : Char} {rest : List Char} (letter : letter? word = some (c, rest)) :
    (String.ofList ('-' :: rest)).length < word.length := by
  obtain ⟨d, more, letters, -, rfl⟩ := letter?_eq_some letter
  have long : word.length = more.length + 3 := by
    rw [← String.length_toList, letters]
    rfl
  rw [String.length_ofList, long]
  simp

/-- Only a group of letters leaves a rest of itself. -/
theorem letter?_of_peels {set : ρ → ρ} {rest : List Char}
    (peels : role flags word = .peels set rest) : ∃ c, letter? word = some (c, rest) := by
  unfold role at peels
  split at peels
  · cases peels
  · split at peels
    · rename_i flag _
      unfold alone at peels
      split at peels <;> cases peels
    · split at peels
      · rename_i c after letter
        cases found : flags.find? fun flag => flag.short = some c with
        | none => simp [found] at peels
        | some flag =>
            simp only [found, Option.elim_some, leading] at peels
            split at peels <;> cases peels
            exact ⟨c, letter⟩
      · split at peels
        · rename_i name argument _
          cases found : flags.find? (isNamed name) with
          | none => simp [found] at peels
          | some flag =>
              simp only [found, Option.elim_some, assigned] at peels
              split at peels <;> cases peels
        · cases peels

/-- Sorting goes on with fewer words, or with shorter ones. -/
theorem follow_congr {next next' : Bool → List String → ρ → Except UsageFault (Sorted ρ)}
    (same : ∀ unknown later request, room later < room (word :: words) →
      next unknown later request = next' unknown later request) :
    (role flags word).follow next unknown word words request =
      (role flags word).follow next' unknown word words request := by
  have behind : room words < room (word :: words) := by
    rw [room_cons]
    omega
  cases played : role flags word with
  | ends => rfl
  | switches set => exact same _ _ _ behind
  | takes flag read =>
      cases words with
      | nil => rfl
      | cons argument words =>
          have further : room words < room (word :: argument :: words) := by
            rw [room_cons, room_cons]
            omega
          have agree : next unknown words = next' unknown words :=
            funext fun request => same _ _ request further
          simp only [Role.follow, agree]
  | peels set rest =>
      obtain ⟨c, letter⟩ := letter?_of_peels played
      have shorter := length_of_letter letter
      refine same _ _ _ ?_
      rw [room_cons, room_cons]
      omega
  | holds flag read argument =>
      have agree : next unknown words = next' unknown words :=
        funext fun request => same _ _ request behind
      simp only [Role.follow, agree]
  | other => simp only [Role.follow, same _ _ _ behind]

/-- More fuel than the words take makes no difference. -/
theorem sortFrom_of_room (enough : room words ≤ fuel) (enough' : room words ≤ fuel') :
    sortFrom flags fuel unknown words request = sortFrom flags fuel' unknown words request := by
  induction fuel generalizing fuel' unknown words request with
  | zero =>
      cases words with
      | nil => rw [sortFrom_nil, sortFrom_nil]
      | cons word words =>
          rw [room_cons] at enough
          omega
  | succ fuel ih =>
      cases words with
      | nil => rw [sortFrom_nil, sortFrom_nil]
      | cons word words =>
          cases fuel' with
          | zero =>
              rw [room_cons] at enough'
              omega
          | succ fuel' =>
              rw [sortFrom_cons, sortFrom_cons]
              exact follow_congr fun _ _ _ smaller => ih (by omega) (by omega)

/-! ## Further flags -/

/-- Flags of the same names that do the same to a request and to what `f` makes of it. -/
structure Like (f : ρ → τ) (flag : Flag ρ) (flag' : Flag τ) : Prop where
  short : flag.short = flag'.short
  long : flag.long = flag'.long
  effect : flag.effect.Like f flag'.effect

/-- Roles that do the same to a request and to what `f` makes of it. -/
inductive Role.Like (f : ρ → τ) : Role ρ → Role τ → Prop where
  | ends : Like f .ends .ends
  | switches {set : ρ → ρ} {set' : τ → τ} (same : ∀ request, set' (f request) = f (set request)) :
      Like f (.switches set) (.switches set')
  | takes {flag : Flag ρ} {flag' : Flag τ} {read : String → ρ → Except String ρ}
      {read' : String → τ → Except String τ}
      (same : ∀ argument request, read' argument (f request) = f <$> read argument request) :
      Like f (.takes flag read) (.takes flag' read')
  | peels {set : ρ → ρ} {set' : τ → τ} (rest : List Char)
      (same : ∀ request, set' (f request) = f (set request)) :
      Like f (.peels set rest) (.peels set' rest)
  | holds {flag : Flag ρ} {flag' : Flag τ} {read : String → ρ → Except String ρ}
      {read' : String → τ → Except String τ} (argument : String)
      (same : ∀ argument request, read' argument (f request) = f <$> read argument request) :
      Like f (.holds flag read argument) (.holds flag' read' argument)
  | other : Like f .other .other

/-- The names of a flag. -/
def names (flag : Flag ρ) : List String :=
  flag.longName :: flag.short.toList.map fun c => String.ofList ['-', c]

theorem isNamed_iff : isNamed word flag = true ↔ word ∈ flag.names := by
  unfold isNamed names
  cases flag.short <;> simp

/-- Whether a role is that of a word that is no flag. -/
def Role.isOther : Role ρ → Bool
  | .other => true
  | _ => false

/-- Whether a word is an unknown option under some flags. -/
def isForeign (flags : List (Flag ρ)) (word : String) : Bool :=
  looksLike word && (role flags word).isOther

/-- Whether the names of some flags are unknown options under others. -/
def apart (own : List (Flag τ)) (common : List (Flag ρ)) : Bool :=
  own.all fun flag => flag.names.all (isForeign common)

section

variable {f : ρ → τ} {own common' : List (Flag τ)} {flag' : Flag τ}

theorem Like.isNamed (like : Like f flag flag') : isNamed word flag = isNamed word flag' := by
  rw [Flag.isNamed, Flag.isNamed, longName, longName, like.short, like.long]

theorem Like.alone (like : Like f flag flag') : Role.Like f flag.alone flag'.alone := by
  have effect := like.effect
  unfold Flag.alone
  generalize flag.effect = left at effect
  generalize flag'.effect = right at effect
  cases effect with
  | switch same => exact .switches same
  | argument same => exact .takes same

theorem Like.leading (like : Like f flag flag') (rest : List Char) :
    Role.Like f (flag.leading rest) (flag'.leading rest) := by
  have effect := like.effect
  unfold Flag.leading
  generalize flag.effect = left at effect
  generalize flag'.effect = right at effect
  cases effect with
  | switch same => exact .peels rest same
  | argument same => exact .holds _ same

theorem Like.assigned (like : Like f flag flag') (argument : String) :
    Role.Like f (flag.assigned argument) (flag'.assigned argument) := by
  have effect := like.effect
  unfold Flag.assigned
  generalize flag.effect = left at effect
  generalize flag'.effect = right at effect
  cases effect with
  | switch same => exact .other
  | argument same => exact .holds argument same

/-- Where the further flags do not come into it, a look-up finds flags that are alike. -/
theorem find?_append_like {p : Flag ρ → Bool} {p' : Flag τ → Bool}
    (like : List.Forall₂ (Like f) common common')
    (same : ∀ flag flag', Like f flag flag' → p flag = p' flag') (none : own.find? p' = none) :
    Option.Rel (Like f) (common.find? p) ((own ++ common').find? p') := by
  rw [List.find?_append, none, Option.none_or]
  induction like with
  | nil => exact .none
  | @cons flag flag' _ _ first _ ih =>
      rw [List.find?_cons, List.find?_cons, same flag flag' first]
      cases p' flag' with
      | true => exact .some first
      | false => exact ih

/-! ### Names that are apart -/

theorem foreign_of_apart (apart : apart own common = true) (member : flag' ∈ own)
    (named : isNamed word flag' = true) : isForeign common word = true := by
  have all := List.all_eq_true.1 apart flag' member
  exact List.all_eq_true.1 all word (isNamed_iff.1 named)

theorem find?_of_foreign (foreign : isForeign common word = true) :
    common.find? (isNamed word) = none := by
  cases found : common.find? (isNamed word) with
  | none => rfl
  | some flag =>
      simp only [isForeign, role, found, Bool.and_eq_true] at foreign
      obtain ⟨-, other⟩ := foreign
      split at other
      · cases other
      · unfold Flag.alone at other
        split at other <;> cases other

theorem foreign_of_role (likely : looksLike word = true) (other : role common word = .other) :
    isForeign common word = true := by
  rw [isForeign, likely, other]
  rfl

/-- Where the further flags know a word by its name, it is unknown to the others. -/
theorem find?_own (apart : apart own common = true) (known : isForeign common word = false) :
    own.find? (isNamed word) = none := by
  rw [List.find?_eq_none]
  intro flag' member named
  rw [foreign_of_apart apart member named] at known
  cases known

theorem isNamed_of_short {c : Char} (short : flag.short = some c) :
    isNamed (String.ofList ['-', c]) flag = true := by
  simp [isNamed, short]

theorem find?_own_letter {c : Char} {rest : List Char} (apart : apart own common = true)
    (known : isForeign common word = false) (unnamed : common.find? (isNamed word) = none)
    (letter : letter? word = some (c, rest)) :
    own.find? (fun flag => flag.short = some c) = none := by
  rw [List.find?_eq_none]
  intro flag' member short
  have foreign := foreign_of_apart apart member (isNamed_of_short (of_decide_eq_true short))
  have absent : common.find? (fun flag => flag.short = some c) = none := by
    rw [List.find?_eq_none]
    intro flag member short
    exact List.find?_eq_none.1 (find?_of_foreign foreign) flag member
      (isNamed_of_short (of_decide_eq_true short))
  have several : word ≠ "--" := by
    rintro rfl
    cases letter
  have other : role common word = .other := by
    simp only [role, if_neg several, unnamed, letter, absent, Option.elim_none]
  have likely : looksLike word = true := by
    obtain ⟨d, more, letters, -, -⟩ := letter?_eq_some letter
    simp only [looksLike, letters]
  rw [foreign_of_role likely other] at known
  cases known

theorem find?_own_assigned {argument : String} (apart : apart own common = true)
    (known : isForeign common word = false) (unnamed : common.find? (isNamed word) = none)
    (single : letter? word = none) (split : splitLong? word = some (name, argument)) :
    own.find? (isNamed name) = none := by
  rw [List.find?_eq_none]
  intro flag' member named
  have absent := find?_of_foreign (foreign_of_apart apart member named)
  have several : word ≠ "--" := by
    rintro rfl
    cases split
  have other : role common word = .other := by
    simp only [role, if_neg several, unnamed, single, split, absent, Option.elim_none]
  have likely : looksLike word = true := by
    unfold splitLong? at split
    split at split
    · rename_i letters
      simp only [looksLike, letters]
    · cases split
  rw [foreign_of_role likely other] at known
  cases known

/-- **Further flags give a new role only to unknown options.** -/
theorem role_append (apart : apart own common = true)
    (like : List.Forall₂ (Like f) common common') (known : isForeign common word = false) :
    Role.Like f (role common word) (role (own ++ common') word) := by
  have named := find?_append_like like (fun _ _ like => like.isNamed) (find?_own apart known)
  by_cases lone : word = "--"
  · rw [role, role, if_pos lone, if_pos lone]
    exact .ends
  rw [role, role, if_neg lone, if_neg lone]
  generalize unnamed : common.find? (isNamed word) = left at named
  generalize (own ++ common').find? (isNamed word) = right at named
  cases named with
  | some alike => exact alike.alone
  | none =>
      cases letter : letter? word with
      | some grouped =>
          obtain ⟨c, rest⟩ := grouped
          have found : Option.Rel (Like f) (common.find? fun flag => flag.short = some c)
              ((own ++ common').find? fun flag => flag.short = some c) :=
            find?_append_like like (fun _ _ like => by rw [like.short])
              (find?_own_letter apart known unnamed letter)
          dsimp only
          generalize common.find? (fun flag => flag.short = some c) = left at found
          generalize (own ++ common').find? (fun flag => flag.short = some c) = right at found
          cases found with
          | some alike => exact alike.leading rest
          | none => exact .other
      | none =>
          cases split : splitLong? word with
          | some assigned =>
              obtain ⟨name, argument⟩ := assigned
              have found := find?_append_like like (fun _ _ like => like.isNamed)
                (find?_own_assigned apart known unnamed letter split)
              dsimp only
              generalize common.find? (isNamed name) = left at found
              generalize (own ++ common').find? (isNamed name) = right at found
              cases found with
              | some alike => exact alike.assigned argument
              | none => exact .other
          | none => exact .other

/-! ### Sorting -/

/-- An argument that is read for a request is read for what `f` makes of it. -/
theorem apply_like {read : String → ρ → Except String ρ} {read' : String → τ → Except String τ}
    {argument : String} {next : ρ → Except UsageFault (Sorted ρ)} {sorted : Sorted ρ}
    (same : ∀ argument request, read' argument (f request) = f <$> read argument request)
    (done : flag.apply read argument request >>= next = .ok sorted) :
    ∃ after, next after = .ok sorted ∧
      flag'.apply read' argument (f request) = .ok (f after) := by
  unfold apply at done ⊢
  rw [same]
  cases reads : read argument request with
  | error reason =>
      rw [reads] at done
      cases done
  | ok after =>
      rw [reads] at done
      exact ⟨after, done, rfl⟩

/-- An unknown option stays unknown. -/
theorem known_of_sortFrom {sorted : Sorted ρ}
    (done : sortFrom common (fuel + 1) false (word :: words) request = .ok sorted)
    (none : sorted.unknown = []) : isForeign common word = false := by
  by_contra foreign
  rw [Bool.not_eq_false, isForeign, Bool.and_eq_true] at foreign
  obtain ⟨likely, other⟩ := foreign
  rw [sortFrom_cons] at done
  generalize role common word = played at done other
  cases played with
  | other =>
      rw [Role.follow, likely, Bool.or_true] at done
      cases later : sortFrom common fuel true words request with
      | error fault =>
          rw [later] at done
          cases done
      | ok before =>
          rw [later] at done
          cases done
          cases none
  | ends | switches | takes | peels | holds => cases other

theorem sortFrom_append (apart : apart own common = true)
    (like : List.Forall₂ (Like f) common common') {sorted : Sorted ρ}
    (done : sortFrom common fuel false words request = .ok sorted) (none : sorted.unknown = []) :
    sortFrom (own ++ common') fuel false words (f request) = .ok (sorted.map f) := by
  induction fuel generalizing words request sorted with
  | zero =>
      rw [sortFrom] at done ⊢
      cases done
      rfl
  | succ fuel ih =>
      cases words with
      | nil =>
          rw [sortFrom_nil] at done ⊢
          cases done
          rfl
      | cons word words =>
          have known := known_of_sortFrom done none
          have alike := role_append apart like known
          rw [sortFrom_cons] at done ⊢
          rw [isForeign] at known
          generalize role common word = left at alike done known
          generalize role (own ++ common') word = right at alike
          cases alike with
          | ends =>
              cases done
              rfl
          | switches same =>
              rw [Role.follow, same]
              exact ih done none
          | takes same =>
              cases words with
              | nil => cases done
              | cons argument words =>
                  obtain ⟨after, later, applied⟩ := apply_like same done
                  rw [Role.follow, applied]
                  exact ih later none
          | peels rest same =>
              rw [Role.follow, same]
              exact ih done none
          | holds argument same =>
              obtain ⟨after, later, applied⟩ := apply_like same done
              rw [Role.follow, applied]
              exact ih later none
          | other =>
              have unlikely : looksLike word = false := (Bool.and_true _).symm.trans known
              rw [Role.follow, unlikely] at done ⊢
              cases later : sortFrom common fuel false words request with
              | error fault =>
                  rw [Bool.or_false, later] at done
                  cases done
              | ok before =>
                  rw [Bool.or_false, later] at done
                  cases done
                  rw [Bool.or_false, ih later none]
                  rfl

end

end Flag

/-! ## Common flags -/

namespace Request

variable {π : Type}

/-- The same request for something else. -/
def withPlan (plan : π) (request : Request Unit) : Request π := { request with plan }

theorem reading_like {α : Type} (plan : π) (name : String) (read : String → Except String α)
    {put : Request Unit → α → Request Unit} {put' : Request π → α → Request π}
    (same : ∀ request value,
      put' (withPlan plan request) value = withPlan plan (put request value)) :
    (reading name read put).Like (withPlan plan) (reading name read put') := by
  refine .argument fun argument request => ?_
  cases read argument with
  | ok value => exact congrArg Except.ok (same request value)
  | error reason => rfl

/-- The common flags leave the plan of a request alone. -/
theorem commonFlags_like (plan : π) :
    List.Forall₂ (Flag.Like (withPlan plan)) commonFlags commonFlags := by
  refine .cons ⟨rfl, rfl, ?_⟩ (.cons ⟨rfl, rfl, ?_⟩ (.cons ⟨rfl, rfl, ?_⟩
    (.cons ⟨rfl, rfl, ?_⟩ .nil)))
  · apply reading_like plan "name" .ok
    exact fun _ _ => rfl
  · apply reading_like plan "json" config
    exact fun _ _ => rfl
  · apply reading_like plan "bytes" integer
    exact fun _ _ => rfl
  · apply reading_like plan "format" outputFormat
    exact fun _ _ => rfl

theorem burstFlags_apart : Flag.apart burstFlags (commonFlags (π := Unit)) = true := by
  decide +kernel

theorem continuousFlags_apart : Flag.apart continuousFlags (commonFlags (π := Unit)) = true := by
  decide +kernel

theorem throughputFlags_apart : Flag.apart throughputFlags (commonFlags (π := Unit)) = true := by
  decide +kernel

end Request

/-! ## Options that are left out -/

namespace Test

/-- The same test, with the options named that are left to the generator. -/
def explicit : Test → Test
  | .burst options => .burst options.plan.options
  | .continuous options => .continuous options.plan.options
  | .throughput options => .throughput options.plan.options

theorem name_explicit (test : Test) : test.explicit.name = test.name := by
  cases test <;> rfl

/-- A test measures the same whether its options are named or left to the generator. -/
theorem measure_explicit {σ : Type} [Console σ] (generator : Generator)
    (flow : Option FlowConfig) (test : Test) :
    (test.explicit.measure generator flow : EStateM Fault (Desk σ) Results) =
      test.measure generator flow := by
  cases test <;> rfl

theorem run_explicit {σ : Type} [Console σ] (generator : Generator) (flow : Option FlowConfig)
    (format : OutputFormat) (color : Bool) (test : Test) :
    (test.explicit.run generator flow format color : EStateM Fault (Desk σ) Unit) =
      test.run generator flow format color := by
  rw [run, run, measure_explicit, name_explicit]

end Test

/-! ## Commands -/

namespace Command

variable {words options : List String} {sorted : Sorted (Request (List Test))}
  {command : Command} {test : Test}

/-- The tests of `all`. -/
def allTests : List Test := [.burst {}, .continuous {}, .throughput {}]

theorem eq_of_mem (listed : command ∈ list) :
    command = burst ∨ command = continuous ∨ command = throughput ∨ command = all := by
  simpa [list] using listed

theorem eq_of_mem_allTests (planned : test ∈ allTests) :
    test = .burst {} ∨ test = .continuous {} ∨ test = .throughput {} := by
  simpa [allTests] using planned

/-- Words of which `all` knows every one leave a command with the plan that it starts
from. -/
theorem sort_make {π : Type} {name description : String} {own : List (Flag (Request π))}
    {start : π} {tests : π → List Test}
    (apart : Flag.apart own (Request.commonFlags (π := Unit)) = true)
    (done : all.sort words = .ok sorted) (none : sorted.unknown = []) :
    (make name description own start tests).sort words =
      .ok (sorted.map fun request => { request with plan := tests start }) := by
  simp only [all, make, List.nil_append] at done ⊢
  cases sorting : Flag.sort Request.commonFlags words ({ plan := () } : Request Unit) with
  | error fault =>
      rw [sorting] at done
      cases done
  | ok before =>
      rw [sorting] at done
      cases done
      have same := Flag.sortFrom_append apart (Request.commonFlags_like start) sorting none
      have sorting' : Flag.sort (own ++ Request.commonFlags) words ({ plan := start } : Request π) =
        .ok (before.map (Request.withPlan start)) := same
      rw [sorting']
      rfl

/-- **The command line starts from the choices of the generator.** -/
theorem start_eq : Request.burstStart = BurstOptions.plan {} ∧
    Request.continuousStart = ContinuousOptions.plan {} ∧
    Request.throughputStart = ThroughputOptions.plan {} := by
  simp only [Request.burstStart, BurstOptions.plan, Request.continuousStart,
    ContinuousOptions.plan, Request.throughputStart, ThroughputOptions.plan, Option.getD_none,
    and_self]

/-- The command of the name of a test, as the plan of `all` has it, runs that test alone, with its
options named. -/
theorem sort_of_all (planned : test ∈ allTests) (done : all.sort words = .ok sorted)
    (none : sorted.unknown = []) :
    ∃ command ∈ list, command.name = test.name ∧ command.sort words =
      .ok (sorted.map fun request => { request with plan := [test.explicit] }) := by
  obtain ⟨burstStart, continuousStart, throughputStart⟩ := start_eq
  rcases eq_of_mem_allTests planned with rfl | rfl | rfl
  · refine ⟨burst, by simp [list], rfl, ?_⟩
    rw [Test.explicit, ← burstStart]
    exact sort_make Request.burstFlags_apart done none
  · refine ⟨continuous, by simp [list], rfl, ?_⟩
    rw [Test.explicit, ← continuousStart]
    exact sort_make Request.continuousFlags_apart done none
  · refine ⟨throughput, by simp [list], rfl, ?_⟩
    rw [Test.explicit, ← throughputStart]
    exact sort_make Request.throughputFlags_apart done none

end Command

/-! ## Command lines -/

namespace Invocation

variable {options operands unknown : List String} {command : Command}
  {request : Request (List Test)}

/-- The name of a command is an operand of the program. -/
theorem sort_named (listed : command ∈ Command.list) (options : List String) :
    Flag.sort Command.programFlags (command.name :: options) false =
      Flag.keep false command.name <$> Flag.sort Command.programFlags options false := by
  have operand : Flag.role Command.programFlags command.name = .other ∧
      Flag.looksLike command.name = false := by
    rcases Command.eq_of_mem listed with rfl | rfl | rfl | rfl <;> exact ⟨rfl, rfl⟩
  obtain ⟨other, unlikely⟩ := operand
  have fuel : Flag.room (command.name :: options) =
      command.name.length + Flag.room options + 1 := by
    rw [Flag.room_cons]
    omega
  rw [Flag.sort_eq, Flag.sort_eq, fuel, Flag.sortFrom_cons, other, Flag.Role.follow, unlikely,
    Flag.sortFrom_of_room (Nat.le_add_left _ _) (Nat.le_refl _)]
  rfl

theorem ofName?_of_mem (listed : command ∈ Command.list) :
    Command.ofName? command.name = some command := by
  rcases Command.eq_of_mem listed with rfl | rfl | rfl | rfl <;> rfl

/-- What a command line means, whichever command it names. -/
theorem ofWords_named (listed : command ∈ Command.list)
    (sorting : Flag.sort Command.programFlags options false = .ok ⟨false, operands, unknown⟩) :
    ofWords (command.name :: options) = ofCommand command unknown := by
  have named : Flag.sort Command.programFlags (command.name :: options) false =
      .ok ⟨false, command.name :: operands, unknown⟩ := by
    rw [sort_named listed, sorting]
    rfl
  simp only [ofWords, named, ofName?_of_mem listed]

theorem sort_of_run (listed : command ∈ Command.list)
    (asked : ofWords (command.name :: options) = .run request) :
    ∃ operands unknown,
      Flag.sort Command.programFlags options false = .ok ⟨false, operands, unknown⟩ := by
  rw [ofWords, sort_named listed] at asked
  cases sorting : Flag.sort Command.programFlags options false with
  | error fault =>
      rw [sorting] at asked
      cases asked
  | ok sorted =>
      obtain ⟨version, operands, unknown⟩ := sorted
      rw [sorting] at asked
      cases version with
      | true => cases asked
      | false => exact ⟨operands, unknown, rfl⟩

theorem ofCommand_eq_run_iff :
    ofCommand command unknown = .run request ↔
      ∃ sorted, command.sort unknown = .ok sorted ∧ sorted.unknown = [] ∧
        sorted.request = request := by
  unfold ofCommand
  constructor
  · intro asked
    split at asked
    · cases asked
    · rename_i sorted sorting
      split at asked
      · cases asked
      · split at asked
        · rename_i none
          cases asked
          exact ⟨sorted, sorting, none, rfl⟩
        · cases asked
  · rintro ⟨sorted, sorting, none, rfl⟩
    simp [sorting, none, Command.asksForHelp]

/-- **Options of `all` are options of every command.**  A run under `all` plans its tests with
all options left to the generator, and with the same options the command of each of them is a
run of that test alone, alike in everything else; its options are named, and come to the same. -/
theorem run_of_all (asked : ofWords (Command.all.name :: options) = .run request) :
    request.plan = Command.allTests ∧
      ∀ test ∈ Command.allTests,
        ofWords (test.name :: options) = .run { request with plan := [test.explicit] } := by
  have listed : Command.all ∈ Command.list := by simp [Command.list]
  obtain ⟨operands, unknown, sorting⟩ := sort_of_run listed asked
  rw [ofWords_named listed sorting, ofCommand_eq_run_iff] at asked
  obtain ⟨sorted, done, none, rfl⟩ := asked
  constructor
  · simp only [Command.all, Command.make] at done
    split at done
    · cases done
      rfl
    · cases done
  · intro test planned
    obtain ⟨command, listed, same, done'⟩ := Command.sort_of_all planned done none
    rw [← same, ofWords_named listed sorting, ofCommand_eq_run_iff]
    exact ⟨_, done', none, rfl⟩

end Invocation

end ManualTraffic
