/-
# ManualTraffic.Proofs.Pairing -- two computations side by side

Two computations start from related states.  They agree when both return the same value or
both fail with the same fault, and their states are related again (`Agree`).  The first one
may also fail with a fault that excuses it: then nothing is said about the second one.
Computations that agree from all related states are `Paired`, and sequences of paired
computations are paired.
-/
import ManualTraffic.Proofs.Sequence

namespace ManualTraffic

set_option autoImplicit false

variable {ε σ τ α β : Type} {R : σ → τ → Prop} {Excused : ε → Prop}

/-- Two results say the same, in related states, or the first one is excused. -/
inductive Agree (R : σ → τ → Prop) (Excused : ε → Prop) :
    EStateM.Result ε σ α → EStateM.Result ε τ α → Prop where
  | ok {value : α} {s : σ} {t : τ} (related : R s t) :
      Agree R Excused (.ok value s) (.ok value t)
  | error {fault : ε} {s : σ} {t : τ} (related : R s t) :
      Agree R Excused (.error fault s) (.error fault t)
  | excused {fault : ε} {s : σ} {other : EStateM.Result ε τ α} (excuse : Excused fault) :
      Agree R Excused (.error fault s) other

/-- No fault is excused. -/
def Unexcused (_ : ε) : Prop := False

/-- From related states, two computations agree. -/
def Paired (R : σ → τ → Prop) (Excused : ε → Prop) (left : EStateM ε σ α)
    (right : EStateM ε τ α) : Prop :=
  ∀ s t, R s t → Agree R Excused (left s) (right t)

/-! ## Sequences -/

theorem paired_pure (value : α) :
    Paired R Excused (pure value : EStateM ε σ α) (pure value) := fun _ _ related => .ok related

theorem paired_throw (fault : ε) :
    Paired R Excused (throw fault : EStateM ε σ α) (throw fault) :=
  fun _ _ related => .error related

theorem paired_modify {f : σ → σ} {g : τ → τ} (step : ∀ s t, R s t → R (f s) (g t)) :
    Paired R Excused (modify f : EStateM ε σ Unit) (modify g) :=
  fun s t related => .ok (step s t related)

theorem Agree.bind {left : EStateM ε σ α} {right : EStateM ε τ α} {left' : α → EStateM ε σ β}
    {right' : α → EStateM ε τ β} {s : σ} {t : τ} (agree : Agree R Excused (left s) (right t))
    (later : ∀ value, Paired R Excused (left' value) (right' value)) :
    Agree R Excused ((left >>= left') s) ((right >>= right') t) := by
  generalize first : left s = here at agree
  generalize second : right t = there at agree
  cases agree with
  | ok related =>
      rw [bind_of_ok first, bind_of_ok second]
      exact later _ _ _ related
  | error related =>
      rw [bind_of_error first, bind_of_error second]
      exact .error related
  | excused excuse =>
      rw [bind_of_error first]
      exact .excused excuse

/-- A relation of states may be read as a weaker one. -/
theorem Agree.mono {S : σ → τ → Prop} {left : EStateM.Result ε σ α}
    {right : EStateM.Result ε τ α} (agree : Agree R Excused left right)
    (weaker : ∀ s t, R s t → S s t) : Agree S Excused left right := by
  cases agree with
  | ok related => exact .ok (weaker _ _ related)
  | error related => exact .error (weaker _ _ related)
  | excused excuse => exact .excused excuse

/-- Where no fault is excused, results that agree end in related states. -/
theorem Agree.ends {left : EStateM.Result ε σ α} {right : EStateM.Result ε τ α}
    (agree : Agree R Unexcused left right) : R (endState left) (endState right) := by
  cases agree with
  | ok related => exact related
  | error related => exact related
  | excused excuse => exact excuse.elim

/-- Two computations that begin alike, from the same state. -/
theorem agree_bind_first {R : σ → σ → Prop} {P : σ → Prop} {first : EStateM ε σ α}
    {left right : α → EStateM ε σ β} {s : σ} (led : P (endState (first s)))
    (stays : ∀ t, P t → R t t)
    (later : ∀ value t, P t → Agree R Excused (left value t) (right value t)) :
    Agree R Excused ((first >>= left) s) ((first >>= right) s) := by
  cases done : first s with
  | ok value t =>
      rw [done] at led
      rw [bind_of_ok done, bind_of_ok done]
      exact later value t led
  | error fault t =>
      rw [done] at led
      rw [bind_of_error done, bind_of_error done]
      exact .error (stays t led)

theorem Paired.bind {left : EStateM ε σ α} {right : EStateM ε τ α} {left' : α → EStateM ε σ β}
    {right' : α → EStateM ε τ β} (first : Paired R Excused left right)
    (later : ∀ value, Paired R Excused (left' value) (right' value)) :
    Paired R Excused (left >>= left') (right >>= right') :=
  fun s t related => (first s t related).bind later

end ManualTraffic
