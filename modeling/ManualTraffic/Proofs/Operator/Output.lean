/-
# ManualTraffic.Proofs.Operator.Output -- what dialogues do to a console

A console is changed in two ways: something is shown on it, or an answer is taken from
it.  A relation that both keep to is kept to by every dialogue (`Kept`), and what is
written to a console of lines is only ever added to (`LineConsole.kept_grows`).
-/
import ManualTraffic.Proofs.Operator.Resume

namespace ManualTraffic

set_option autoImplicit false

/-- A relation between a console before and after that showing something keeps to, and
taking an answer. -/
structure Kept {σ : Type} [Console σ] (R : σ → σ → Prop) : Prop where
  refl : ∀ s, R s s
  trans : ∀ {s t u}, R s t → R t u → R s u
  shown : ∀ shown s, R s (Console.emit shown s)
  taken : ∀ {s t answer}, Console.answer? s = some (answer, t) → R s t

namespace Kept

variable {σ : Type} [Console σ] {R : σ → σ → Prop}

theorem tell (kept : Kept R) (shown : Shown) : Leads R (Console.tell shown) :=
  leads_modify (kept.shown shown)

theorem tellAll (kept : Kept R) (shown : List Shown) : Leads R (Console.tellAll shown) := by
  induction shown with
  | nil => exact leads_pure kept.refl ()
  | cons one more ih => exact leads_bind kept.trans (kept.tell one) fun _ => ih

theorem ask (kept : Kept R) (question : String) : Leads R (Console.ask question) := by
  intro s
  have asked := kept.shown (.ask question) s
  rw [Console.ask_eq]
  cases taken : Console.answer? (Console.emit (.ask question) s) with
  | none => exact asked
  | some answered => exact kept.trans asked (kept.taken taken)

theorem stat (kept : Kept R) (name : String) (fuel : Nat) (waiting : Waiting) :
    Leads R (Dialogue.stat name fuel waiting) := by
  induction fuel generalizing waiting with
  | zero => exact leads_throw kept.refl _
  | succ fuel ih =>
      rw [Dialogue.stat]
      refine leads_bind kept.trans (kept.ask _) fun answer => ?_
      cases waiting.reply answer with
      | accepted value => exact leads_pure kept.refl value
      | goOn next shown => exact leads_bind kept.trans (kept.tellAll shown) fun _ => ih next

theorem askStat (kept : Kept R) (name : String) : Leads R (Dialogue.askStat name) :=
  fun s => kept.stat name _ _ s

theorem collect (kept : Kept R) (names : List String) : Leads R (Dialogue.collect names) := by
  induction names with
  | nil => exact leads_pure kept.refl []
  | cons name names ih =>
      rw [Dialogue.collect]
      refine leads_bind kept.trans (kept.askStat name) fun value => ?_
      exact leads_bind kept.trans ih fun values => leads_pure kept.refl (value :: values)

end Kept

/-! ## A console of lines -/

namespace LineConsole

/-- What was written stays, and perhaps more was written behind it. -/
def Grows (s t : LineConsole) : Prop := ∃ more, t.written = s.written ++ more

theorem kept_grows : Kept Grows where
  refl s := ⟨"", by rw [String.append_empty]⟩
  trans := by
    rintro s t u ⟨more, first⟩ ⟨later, second⟩
    exact ⟨more ++ later, by rw [second, first, String.append_assoc]⟩
  shown shown s := ⟨shown.text, rfl⟩
  taken := by
    intro s t answer taken
    refine ⟨"", ?_⟩
    rw [String.append_empty]
    simp only [Console.answer?, answer?] at taken
    split at taken
    · cases taken
    · cases taken
      rfl

end LineConsole

end ManualTraffic
