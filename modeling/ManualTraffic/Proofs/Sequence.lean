/-
# ManualTraffic.Proofs.Sequence -- one computation after another

What a sequence of two computations does, from what its first one did, and what all
computations made of the same few steps have in common: a relation between the states
before and after, which each of the steps keeps to (`Leads`).
-/

namespace ManualTraffic

set_option autoImplicit false

variable {ε σ α β : Type} {first : EStateM ε σ α} {next : α → EStateM ε σ β} {s t : σ}

theorem bind_of_ok {value : α} (done : first s = .ok value t) :
    (first >>= next) s = next value t := by
  simp only [bind, EStateM.bind, done]

theorem bind_of_error {fault : ε} (failed : first s = .error fault t) :
    (first >>= next) s = .error fault t := by
  simp only [bind, EStateM.bind, failed]

/-! ## Where computations lead -/

/-- The state in which a computation ends, whether it returns or fails. -/
def endState : EStateM.Result ε σ α → σ
  | .ok _ s => s
  | .error _ s => s

/-- From every state, a computation leads to a related one. -/
def Leads (R : σ → σ → Prop) (run : EStateM ε σ α) : Prop := ∀ s, R s (endState (run s))

variable {R : σ → σ → Prop}

theorem leads_pure (refl : ∀ s, R s s) (value : α) :
    Leads R (pure value : EStateM ε σ α) := refl

theorem leads_throw (refl : ∀ s, R s s) (fault : ε) :
    Leads R (throw fault : EStateM ε σ α) := refl

theorem leads_modify {f : σ → σ} (step : ∀ s, R s (f s)) :
    Leads R (modify f : EStateM ε σ Unit) := step

theorem leads_bind (trans : ∀ {s t u}, R s t → R t u → R s u) (leads : Leads R first)
    (later : ∀ value, Leads R (next value)) : Leads R (first >>= next) := by
  intro s
  have start := leads s
  cases done : first s with
  | ok value t =>
      rw [done] at start
      rw [bind_of_ok done]
      exact trans start (later value t)
  | error fault t =>
      rw [done] at start
      rw [bind_of_error done]
      exact start

end ManualTraffic
