/-
# ManualTraffic.Proofs.Scope.Program -- programs that connect, and what is seen of them

A `Program` uses links: it operates, it raises an error, and it does something while connected,
in scopes that nest as they like.  A link may fail to connect and to disconnect whenever it
likes, since both are computations on the state.

The same program can be watched: run by the same `Program.run` on links that note each call in
the state (`Program.observed`, `Link.observed`), it does what it does unwatched
(`forget_watch`), and leaves a list of events.  Which lists there can be, with the failure that
each ends in, is said by `Course`; every run follows one (`watch_course`).
-/
import ManualTraffic.Proofs.Scope.Pairing

namespace ManualTraffic

set_option autoImplicit false

/-! ## Programs -/

/-- A program that uses links of one kind, each of a name. -/
inductive Program (ε σ ι γ : Type) : Type → Type 1 where
  | finish {α : Type} (value : α) : Program ε σ ι γ α
  | raise {α : Type} (fault : ε) : Program ε σ ι γ α
  | operate {α β : Type} (operation : EStateM ε σ β) (next : β → Program ε σ ι γ α) :
      Program ε σ ι γ α
  /-- A body that is run while connected, and what its caller does next. -/
  | scope {α β : Type} (name : ι) (body : γ → Program ε σ ι γ β)
      (next : β → Program ε σ ι γ α) : Program ε σ ι γ α

variable {ε σ ι γ : Type}

namespace Program

/-- Runs a program on given links. -/
def run (links : ι → Link ε σ γ) {α : Type} : Program ε σ ι γ α → EStateM ε σ α
  | .finish value => pure value
  | .raise fault => throw fault
  | .operate operation next => do
      let result ← operation
      run links (next result)
  | .scope name body next => do
      let result ← (links name).within fun connected => run links (body connected)
      run links (next result)

end Program

/-! ## Watching -/

/-- What is seen of a program.  A call is seen together with what it failed with. -/
inductive Event (ε ι : Type) where
  | connect (name : ι) (failure : Option ε)
  /-- The body of a scope begins. -/
  | enter (name : ι)
  | operate (failure : Option ε)
  | raise (fault : ε)
  | disconnect (name : ι) (failure : Option ε)

/-- A state and the events so far. -/
structure Watched (ε σ ι : Type) where
  state : σ
  events : List (Event ε ι)

namespace Watched

variable {α : Type}

def add (seen : Watched ε σ ι) (event : Event ε ι) : Watched ε σ ι :=
  { seen with events := seen.events ++ [event] }

/-- Notes an event. -/
def note (event : Event ε ι) : EStateM ε (Watched ε σ ι) Unit := modify (·.add event)

/-- Runs a computation and notes what it failed with. -/
def observe (event : Option ε → Event ε ι) (run : EStateM ε σ α) : EStateM ε (Watched ε σ ι) α :=
  fun seen =>
    match run seen.state with
    | .ok value s => .ok value (add ⟨s, seen.events⟩ (event none))
    | .error fault s => .error fault (add ⟨s, seen.events⟩ (event (some fault)))

/-- A result without what was seen. -/
def forget : EStateM.Result ε (Watched ε σ ι) α → EStateM.Result ε σ α
  | .ok value seen => .ok value seen.state
  | .error fault seen => .error fault seen.state

end Watched

open Watched (note observe)

/-- A link whose calls are seen. -/
def Link.observed (name : ι) (link : Link ε σ γ) : Link ε (Watched ε σ ι) γ :=
  ⟨observe (.connect name) link.connect, observe (.disconnect name) link.disconnect⟩

namespace Program

/-- A program whose operations, errors and bodies are seen. -/
def observed {α : Type} : Program ε σ ι γ α → Program ε (Watched ε σ ι) ι γ α
  | .finish value => .finish value
  | .raise fault => .operate (note (.raise fault)) fun _ => .raise fault
  | .operate operation next =>
      .operate (observe .operate operation) fun result => (next result).observed
  | .scope name body next =>
      .scope name
        (fun connected => .operate (note (.enter name)) fun _ => (body connected).observed)
        fun result => (next result).observed

/-- Runs a program on links while both are watched. -/
def watch (links : ι → Link ε σ γ) {α : Type} (program : Program ε σ ι γ α) (s : σ) :
    EStateM.Result ε (Watched ε σ ι) α :=
  program.observed.run (fun name => (links name).observed name) ⟨s, []⟩

end Program

/-! ## Watching changes nothing -/

section

variable {α β : Type}

/-- What is seen aside, a watched state is the state. -/
def Watched.Of (seen : Watched ε σ ι) (s : σ) : Prop := seen.state = s

theorem paired_observe (event : Option ε → Event ε ι) (run : EStateM ε σ α) :
    Paired Watched.Of Unexcused (observe event run) run := by
  rintro seen _ rfl
  unfold observe
  cases run seen.state with
  | ok value s => exact .ok rfl
  | error fault s => exact .error rfl

theorem paired_note (event : Event ε ι) {left : EStateM ε (Watched ε σ ι) α} {right : EStateM ε σ α}
    (paired : Paired Watched.Of Unexcused left right) :
    Paired Watched.Of Unexcused (note event >>= fun _ => left) right :=
  fun seen s of => paired (seen.add event) s of

/-- A program that is watched does what it does unwatched. -/
theorem Program.paired_observed (links : ι → Link ε σ γ) (program : Program ε σ ι γ α) :
    Paired Watched.Of Unexcused (program.observed.run fun name => (links name).observed name)
      (program.run links) := by
  induction program with
  | finish value => exact paired_pure value
  | raise fault => exact paired_note _ (paired_throw fault)
  | operate operation next ih => exact (paired_observe _ operation).bind ih
  | scope name body next body_ih next_ih =>
      exact (Paired.within (paired_observe _ _) (fun connected => paired_note _ (body_ih connected))
        (paired_observe _ _)).bind next_ih

theorem Program.forget_watch (links : ι → Link ε σ γ) (program : Program ε σ ι γ α) (s : σ) :
    Watched.forget (program.watch links s) = program.run links s := by
  have agree := program.paired_observed links ⟨s, []⟩ s rfl
  unfold Program.watch
  generalize program.observed.run _ _ = watched at agree
  generalize program.run links s = result at agree
  cases agree with
  | ok of => exact congrArg _ of
  | error of => exact congrArg _ of
  | excused excuse => exact excuse.elim

/-! ## Courses -/

/-- What a computation failed with. -/
def failure? : EStateM.Result ε σ α → Option ε
  | .ok _ _ => none
  | .error fault _ => some fault

/-- The events that a program can leave, and the failure that it ends in.  A body is entered
once, after its link has connected, and what it leaves is followed by disconnecting; a failure
there takes the place of the body's.  Only what ends without a failure is followed by more. -/
inductive Course : List (Event ε ι) → Option ε → Prop where
  | silent : Course [] none
  | raised (fault : ε) : Course [.raise fault] (some fault)
  | operated (failure : Option ε) : Course [.operate failure] failure
  | refused (name : ι) (fault : ε) : Course [.connect name (some fault)] (some fault)
  | scope (name : ι) {inner : List (Event ε ι)} {failure : Option ε} (last : Option ε)
      (body : Course inner failure) :
      Course (.connect name none :: .enter name :: (inner ++ [.disconnect name last]))
        (last.or failure)
  | append {first rest : List (Event ε ι)} {failure : Option ε} (done : Course first none)
      (more : Course rest failure) : Course (first ++ rest) failure

/-- A computation leaves a course of events. -/
def Follows (run : EStateM ε (Watched ε σ ι) α) : Prop :=
  ∀ seen, ∃ events, (endState (run seen)).events = seen.events ++ events ∧
    Course events (failure? (run seen))

theorem Follows.bind {first : EStateM ε (Watched ε σ ι) α}
    {next : α → EStateM ε (Watched ε σ ι) β} (follows : Follows first)
    (later : ∀ value, Follows (next value)) : Follows (first >>= next) := by
  intro seen
  obtain ⟨events, added, course⟩ := follows seen
  cases done : first seen with
  | error fault mid =>
      rw [done] at added course
      rw [bind_of_error done]
      exact ⟨events, added, course⟩
  | ok value mid =>
      rw [done] at added course
      rw [bind_of_ok done]
      obtain ⟨more, added', course'⟩ := later value mid
      refine ⟨events ++ more, ?_, course.append course'⟩
      rw [added', show mid.events = seen.events ++ events from added, List.append_assoc]

theorem observe_of_ok {event : Option ε → Event ε ι} {run : EStateM ε σ α} {value : α}
    {seen : Watched ε σ ι} {t : σ} (done : run seen.state = .ok value t) :
    observe event run seen = .ok value ⟨t, seen.events ++ [event none]⟩ := by
  rw [observe, done]
  rfl

theorem observe_of_error {event : Option ε → Event ε ι} {run : EStateM ε σ α} {fault : ε}
    {seen : Watched ε σ ι} {t : σ} (failed : run seen.state = .error fault t) :
    observe event run seen = .error fault ⟨t, seen.events ++ [event (some fault)]⟩ := by
  rw [observe, failed]
  rfl

theorem follows_operation (operation : EStateM ε σ α) :
    Follows (observe .operate operation : EStateM ε (Watched ε σ ι) α) := by
  intro seen
  cases done : operation seen.state with
  | ok value t =>
      rw [observe_of_ok done]
      exact ⟨_, rfl, .operated none⟩
  | error fault t =>
      rw [observe_of_error done]
      exact ⟨_, rfl, .operated (some fault)⟩

theorem follows_raise (fault : ε) :
    Follows (note (.raise fault) >>= fun _ => throw fault : EStateM ε (Watched ε σ ι) α) :=
  fun _ => ⟨_, rfl, .raised fault⟩

theorem failure?_inState (s : σ) (result : EStateM.Result ε σ α) :
    failure? (inState s result) = failure? result := by
  cases result <;> rfl

theorem endState_inState (s : σ) (result : EStateM.Result ε σ α) :
    endState (inState s result) = s := by
  cases result <;> rfl

theorem follows_within (name : ι) (link : Link ε σ γ) {body : γ → EStateM ε (Watched ε σ ι) α}
    (follows : ∀ connected, Follows (body connected)) :
    Follows ((link.observed name).within fun connected =>
      note (.enter name) >>= fun _ => body connected) := by
  intro seen
  cases connects : link.connect seen.state with
  | error fault t =>
      rw [Link.within_of_refused _ (observe_of_error connects)]
      exact ⟨_, rfl, .refused name fault⟩
  | ok connected t =>
      let start : Watched ε σ ι := ⟨t, seen.events ++ [.connect name none] ++ [.enter name]⟩
      obtain ⟨inner, added, course⟩ := follows connected start
      rw [Link.within_of_connected (observe_of_ok connects)]
      show ∃ events, (endState ((link.observed name).closed (body connected start))).events = _ ∧
        Course events (failure? ((link.observed name).closed (body connected start)))
      generalize body connected start = result at added course
      -- the events of the body lie between those of the link
      have between (last : Option ε) :
          (endState result).events ++ [.disconnect name last] = seen.events ++
            (.connect name none :: .enter name :: (inner ++ [.disconnect name last])) := by
        rw [added]
        simp only [start, List.append_assoc, List.cons_append, List.nil_append]
      cases disconnects : link.disconnect (endState result).state with
      | ok _ u =>
          rw [Link.closed_of_ok (observe_of_ok disconnects), endState_inState, failure?_inState]
          exact ⟨_, between none, .scope name none course⟩
      | error fault u =>
          rw [Link.closed_of_error (observe_of_error disconnects)]
          exact ⟨_, between (some fault), .scope name (some fault) course⟩

/-- Whatever a program does, it follows a course. -/
theorem Program.follows (links : ι → Link ε σ γ) (program : Program ε σ ι γ α) :
    Follows (program.observed.run fun name => (links name).observed name) := by
  induction program with
  | finish value => exact fun seen => ⟨[], (List.append_nil _).symm, .silent⟩
  | raise fault => exact follows_raise fault
  | operate operation next ih => exact (follows_operation operation).bind ih
  | scope name body next body_ih next_ih =>
      exact (follows_within name (links name) body_ih).bind next_ih

theorem Program.watch_course (links : ι → Link ε σ γ) (program : Program ε σ ι γ α) (s : σ) :
    Course (endState (program.watch links s)).events (failure? (program.watch links s)) := by
  obtain ⟨events, added, course⟩ := program.follows links ⟨s, []⟩
  rw [show (endState (program.watch links s)).events = events from added]
  exact course

end

end ManualTraffic
