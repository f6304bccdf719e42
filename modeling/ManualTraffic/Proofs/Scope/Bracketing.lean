/-
# ManualTraffic.Proofs.Scope.Bracketing -- connections nest

What a program leaves is a course, and from courses three things are read, by induction on
them.  The links that connected and those that were disconnected are a balanced row of brackets
(`Course.balanced`), a Dyck word if the names are left out (`Balanced.dyck`).  The failure that a
program ends in is the last one that was seen (`Course.failure_eq`).  And after a failure nothing
happens but disconnecting (`Course.unwinds`): a failure passes through every scope around it.
-/
import ManualTraffic.Proofs.Scope.Program
import Mathlib.Combinatorics.Enumerative.DyckWord

namespace ManualTraffic

set_option autoImplicit false

variable {ε σ ι γ α β : Type} {events : List (Event ε ι)} {failure : Option ε}

/-! ## Brackets -/

/-- A link that connected, or one that was disconnected. -/
inductive Bracket (ι : Type) where
  | opened (name : ι)
  | closed (name : ι)

/-- Brackets that close in the order in which they are open, each under its own name. -/
inductive Balanced : List (Bracket ι) → Prop where
  | nil : Balanced []
  | around (name : ι) {inner : List (Bracket ι)} (balanced : Balanced inner) :
      Balanced (.opened name :: (inner ++ [.closed name]))
  | append {first rest : List (Bracket ι)} (balanced : Balanced first)
      (balanced' : Balanced rest) : Balanced (first ++ rest)

/-- A bracket without its name. -/
def Bracket.step : Bracket ι → DyckStep
  | .opened _ => .U
  | .closed _ => .D

theorem Balanced.dyck {brackets : List (Bracket ι)} (balanced : Balanced brackets) :
    ∃ word : DyckWord, word.toList = brackets.map Bracket.step := by
  induction balanced with
  | nil => exact ⟨0, rfl⟩
  | around name _ ih =>
      obtain ⟨word, same⟩ := ih
      refine ⟨word.nest, ?_⟩
      rw [List.map_cons, List.map_append, ← same]
      rfl
  | append _ _ ih ih' =>
      obtain ⟨word, same⟩ := ih
      obtain ⟨word', same'⟩ := ih'
      refine ⟨word + word', ?_⟩
      rw [List.map_append, ← same, ← same']
      rfl

namespace Event

/-- The bracket that an event is.  A link that did not connect opens none; one that failed to
disconnect is closed. -/
def bracket? : Event ε ι → Option (Bracket ι)
  | .connect name none => some (.opened name)
  | .disconnect name _ => some (.closed name)
  | _ => none

/-- What failed in an event. -/
def failure? : Event ε ι → Option ε
  | .connect _ failure => failure
  | .enter _ => none
  | .operate failure => failure
  | .raise fault => some fault
  | .disconnect _ failure => failure

/-- A link is disconnected. -/
def Disconnects : Event ε ι → Prop
  | .disconnect _ _ => True
  | _ => False

end Event

namespace Course

/-- Every course is balanced. -/
theorem balanced (course : Course events failure) :
    Balanced (events.filterMap Event.bracket?) := by
  induction course with
  | silent => exact .nil
  | raised fault => exact .nil
  | operated failure => exact .nil
  | refused name fault => exact .nil
  | scope name last body ih =>
      have brackets := Balanced.around name ih
      simpa only [List.filterMap_cons, List.filterMap_append, List.filterMap_nil, Event.bracket?]
        using brackets
  | append done more ih ih' =>
      rw [List.filterMap_append]
      exact ih.append ih'

/-! ## Failures -/

/-- A course ends in its last failure. -/
theorem failure_eq (course : Course events failure) :
    failure = (events.filterMap Event.failure?).getLast? := by
  induction course with
  | silent => rfl
  | raised fault => rfl
  | operated failure => cases failure <;> rfl
  | refused name fault => rfl
  | scope name last body ih =>
      cases last with
      | none =>
          simp only [List.filterMap_cons, List.filterMap_append, List.filterMap_nil,
            Event.failure?, List.append_nil, Option.none_or]
          exact ih
      | some fault =>
          simp only [List.filterMap_cons, List.filterMap_append, List.filterMap_nil,
            Event.failure?, List.getLast?_append, List.getLast?_singleton, Option.some_or]
  | append done more ih ih' =>
      rw [List.filterMap_append, List.getLast?_append, ← ih', ← ih, Option.or_none]

theorem quiet (course : Course events none) : ∀ event ∈ events, event.failure? = none := by
  have none_failed : events.filterMap Event.failure? = [] :=
    List.getLast?_eq_none_iff.1 course.failure_eq.symm
  exact List.filterMap_eq_nil_iff.1 none_failed

/-- After a failure links are disconnected, and nothing else is done. -/
theorem unwinds (course : Course events failure) :
    events.Pairwise fun first later => first.failure? ≠ none → later.Disconnects := by
  induction course with
  | silent => exact .nil
  | raised fault => exact List.pairwise_singleton _ _
  | operated failure => exact List.pairwise_singleton _ _
  | refused name fault => exact List.pairwise_singleton _ _
  | scope name last body ih =>
      refine .cons (fun _ _ failed => absurd rfl failed)
        (.cons (fun _ _ failed => absurd rfl failed) ?_)
      refine List.pairwise_append.2 ⟨ih, List.pairwise_singleton _ _, fun first _ later among => ?_⟩
      rw [List.mem_singleton.1 among]
      exact fun _ => trivial
  | append done more ih ih' =>
      refine List.pairwise_append.2 ⟨ih, ih', fun first among later _ failed => ?_⟩
      exact absurd (done.quiet first among) failed

end Course

/-! ## One scope -/

namespace Link

variable {link : Link ε σ γ} {body : γ → EStateM ε σ α} {value : α} {fault : ε} {s t : σ}

theorem closed_ok_iff {result : EStateM.Result ε σ α} :
    link.closed result = .ok value t ↔
      ∃ v, result = .ok value v ∧ link.disconnect v = .ok () t := by
  constructor
  · intro returned
    cases disconnects : link.disconnect (endState result) with
    | error fault v =>
        rw [closed_of_error disconnects] at returned
        cases returned
    | ok _ v =>
        rw [closed_of_ok disconnects] at returned
        cases result with
        | error fault u => cases returned
        | ok value u =>
            cases returned
            exact ⟨u, rfl, disconnects⟩
  · rintro ⟨v, rfl, disconnects⟩
    exact closed_of_ok disconnects

theorem closed_error_iff {result : EStateM.Result ε σ α} :
    link.closed result = .error fault t ↔
      link.disconnect (endState result) = .error fault t ∨
        ∃ v, result = .error fault v ∧ link.disconnect v = .ok () t := by
  constructor
  · intro failed
    cases disconnects : link.disconnect (endState result) with
    | error last v =>
        rw [closed_of_error disconnects] at failed
        cases failed
        exact .inl rfl
    | ok _ v =>
        rw [closed_of_ok disconnects] at failed
        cases result with
        | ok value u => cases failed
        | error fault u =>
            cases failed
            exact .inr ⟨u, rfl, disconnects⟩
  · rintro (disconnects | ⟨v, rfl, disconnects⟩)
    · exact closed_of_error disconnects
    · exact closed_of_ok disconnects

/-- A scope returns exactly if nothing in it failed, and it returns what its body does. -/
theorem within_ok_iff :
    link.within body s = .ok value t ↔
      ∃ connected u v, link.connect s = .ok connected u ∧ body connected u = .ok value v ∧
        link.disconnect v = .ok () t := by
  constructor
  · intro returned
    cases connects : link.connect s with
    | error fault u =>
        rw [within_of_refused body connects] at returned
        cases returned
    | ok connected u =>
        rw [within_of_connected connects] at returned
        obtain ⟨v, done, disconnects⟩ := closed_ok_iff.1 returned
        exact ⟨connected, u, v, rfl, done, disconnects⟩
  · rintro ⟨connected, u, v, connects, done, disconnects⟩
    rw [within_of_connected connects, closed_ok_iff]
    exact ⟨v, done, disconnects⟩

/-- A scope fails with the failure to connect, else with that to disconnect, else with that of
its body. -/
theorem within_error_iff :
    link.within body s = .error fault t ↔
      link.connect s = .error fault t ∨
      ∃ connected u, link.connect s = .ok connected u ∧
        (link.disconnect (endState (body connected u)) = .error fault t ∨
          ∃ v, body connected u = .error fault v ∧ link.disconnect v = .ok () t) := by
  cases connects : link.connect s with
  | error first u =>
      rw [within_of_refused body connects]
      constructor
      · intro same
        cases same
        exact .inl rfl
      · rintro (same | ⟨_, _, same, -⟩)
        · cases same
          rfl
        · cases same
  | ok connected u =>
      rw [within_of_connected connects, closed_error_iff]
      constructor
      · exact fun failed => .inr ⟨connected, u, rfl, failed⟩
      · rintro (refused | ⟨_, _, same, failed⟩)
        · cases refused
        · cases same
          exact failed

end Link

/-! ## Programs -/

/-- **Scopes bracket what is done in them.**  A run of a program is what is left of a watched
run when the events are forgotten, and the events follow a course: a link that does not connect
is neither entered nor disconnected, and one that does is entered once, and disconnected once
behind all that its body did and before all that comes after.  So the links that connect and
those that are disconnected are balanced; the run ends in the last failure that was seen, and
returns if none was; and a failure passes through all scopes around it, in which nothing is done
any more but disconnecting.  Each scope returns what its body does exactly if nothing failed,
and else fails with the failure to connect, the one to disconnect, or that of its body, in this
order. -/
theorem scopes_bracket (links : ι → Link ε σ γ) (program : Program ε σ ι γ α) (s : σ) :
    let watched := program.watch links s
    let events := (endState watched).events
    let brackets := events.filterMap Event.bracket?
    Watched.forget watched = program.run links s ∧
      Course events (failure? watched) ∧
      Balanced brackets ∧ (∃ word : DyckWord, word.toList = brackets.map Bracket.step) ∧
      failure? watched = (events.filterMap Event.failure?).getLast? ∧
      (events.Pairwise fun first later => first.failure? ≠ none → later.Disconnects) ∧
      ∀ (β : Type) (name : ι) (body : γ → Program ε σ ι γ β),
        let scope := (links name).within fun connected => (body connected).run links
        (∀ value t, scope s = .ok value t ↔
          ∃ connected u v, (links name).connect s = .ok connected u ∧
            (body connected).run links u = .ok value v ∧ (links name).disconnect v = .ok () t) ∧
        ∀ fault t, scope s = .error fault t ↔
          (links name).connect s = .error fault t ∨
          ∃ connected u, (links name).connect s = .ok connected u ∧
            ((links name).disconnect (endState ((body connected).run links u)) = .error fault t ∨
              ∃ v, (body connected).run links u = .error fault v ∧
                (links name).disconnect v = .ok () t) := by
  intro watched events brackets
  have course : Course events (failure? watched) := program.watch_course links s
  exact ⟨program.forget_watch links s, course, course.balanced, course.balanced.dyck,
    course.failure_eq, course.unwinds,
    fun β name body => ⟨fun value t => Link.within_ok_iff, fun fault t => Link.within_error_iff⟩⟩

end ManualTraffic
