/-
# ManualTraffic.Proofs.Scope.Pairing -- scopes in two steps, and side by side

A scope that connects is its body and then the link's end, whatever the body comes to
(`Link.within_of_connected`); one that does not is its failure (`Link.within_of_refused`).  So
two scopes agree if what they are made of does and no fault is excused (`Paired.within`).
-/
import ManualTraffic.Proofs.Pairing
import ManualTraffic.Scope

namespace ManualTraffic

set_option autoImplicit false

variable {ε σ τ γ α : Type} {R : σ → τ → Prop}

/-! ## Scopes in two steps -/

/-- A result in another state. -/
def inState (s : σ) : EStateM.Result ε σ α → EStateM.Result ε σ α
  | .ok value _ => .ok value s
  | .error fault _ => .error fault s

/-- What disconnecting leaves of the result of a body. -/
def Link.closed (link : Link ε σ γ) (result : EStateM.Result ε σ α) : EStateM.Result ε σ α :=
  match link.disconnect (endState result) with
  | .ok _ s => inState s result
  | .error fault s => .error fault s

theorem Link.closed_of_ok {link : Link ε σ γ} {result : EStateM.Result ε σ α} {s : σ}
    (disconnects : link.disconnect (endState result) = .ok () s) :
    link.closed result = inState s result := by
  rw [closed, disconnects]

theorem Link.closed_of_error {link : Link ε σ γ} {result : EStateM.Result ε σ α} {fault : ε}
    {s : σ} (disconnects : link.disconnect (endState result) = .error fault s) :
    link.closed result = .error fault s := by
  rw [closed, disconnects]

theorem Link.within_of_connected {link : Link ε σ γ} {body : γ → EStateM ε σ α} {connected : γ}
    {s t : σ} (connects : link.connect s = .ok connected t) :
    link.within body s = link.closed (body connected t) := by
  unfold Link.within Link.closed
  rw [connects]
  dsimp only
  cases body connected t with
  | ok value u => rfl
  | error fault u => rfl

theorem Link.within_of_refused {link : Link ε σ γ} (body : γ → EStateM ε σ α) {fault : ε}
    {s t : σ} (refuses : link.connect s = .error fault t) :
    link.within body s = .error fault t := by
  rw [Link.within, refuses]

/-! ## Scopes side by side -/

theorem Agree.closed {link : Link ε σ γ} {link' : Link ε τ γ} {left : EStateM.Result ε σ α}
    {right : EStateM.Result ε τ α} (agree : Agree R Unexcused left right)
    (disconnects : Paired R Unexcused link.disconnect link'.disconnect) :
    Agree R Unexcused (link.closed left) (link'.closed right) := by
  have last := disconnects _ _ agree.ends
  unfold Link.closed
  generalize link.disconnect (endState left) = here at last
  generalize link'.disconnect (endState right) = there at last
  cases last with
  | excused excuse => exact excuse.elim
  | error related => exact .error related
  | ok related =>
      cases agree with
      | ok _ => exact .ok related
      | error _ => exact .error related
      | excused excuse => exact excuse.elim

/-- Two scopes agree if what they are made of does. -/
theorem Paired.within {link : Link ε σ γ} {link' : Link ε τ γ} {body : γ → EStateM ε σ α}
    {body' : γ → EStateM ε τ α} (connects : Paired R Unexcused link.connect link'.connect)
    (bodies : ∀ connected, Paired R Unexcused (body connected) (body' connected))
    (disconnects : Paired R Unexcused link.disconnect link'.disconnect) :
    Paired R Unexcused (link.within body) (link'.within body') := by
  intro s t related
  have start := connects s t related
  generalize first : link.connect s = here at start
  generalize second : link'.connect t = there at start
  cases start with
  | excused excuse => exact excuse.elim
  | error related =>
      rw [Link.within_of_refused _ first, Link.within_of_refused _ second]
      exact .error related
  | ok related =>
      rw [Link.within_of_connected first, Link.within_of_connected second]
      exact (bodies _ _ _ related).closed disconnects

end ManualTraffic
