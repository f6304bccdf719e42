/-
# ManualTraffic.Scope -- connected for as long as it takes

`Link.within` connects, runs a body, and disconnects whether or not the body
succeeded.  A link that does not connect is not disconnected.  An error of the
disconnection takes the place of one of the body.
-/

namespace ManualTraffic

set_option autoImplicit false

/-- How to connect to something and to disconnect from it. -/
structure Link (ε σ γ : Type) where
  connect : EStateM ε σ γ
  disconnect : EStateM ε σ Unit

namespace Link

variable {ε σ γ α : Type}

/-- Connects, runs the body with what it is connected to, and disconnects. -/
def within (link : Link ε σ γ) (body : γ → EStateM ε σ α) : EStateM ε σ α := fun s =>
  match link.connect s with
  | .error fault s => .error fault s
  | .ok connected s =>
      match body connected s with
      | .ok value s =>
          match link.disconnect s with
          | .ok _ s => .ok value s
          | .error fault s => .error fault s
      | .error fault s =>
          match link.disconnect s with
          | .ok _ s => .error fault s
          | .error last s => .error last s

end Link

end ManualTraffic
