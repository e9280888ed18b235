import CheckinService.Lib.Machine
import Mathlib.Data.List.Forall2

namespace Machine

universe u v w

variable {σ : Type u} {α : Type v} {β : Type w}

def outputs (next : σ → α → σ) (out : σ → α → β) : σ → List α → List β
  | _, [] => []
  | s, a :: as => out s a :: outputs next out (next s a) as

variable {next : σ → α → σ} {out : σ → α → β} {R : σ → σ → Prop} {Q : α → α → Prop}
  {G : σ → α → Prop}

/-- Related states stay related, and show the same, as long as the first run meets its guard. -/
theorem lockstep
    (step : ∀ s s' a a', R s s' → Q a a' → G s a →
      out s' a' = out s a ∧ R (next s a) (next s' a')) {s s' : σ} {as as' : List α}
    (hR : R s s') (hQ : List.Forall₂ Q as as') (hG : Guarded next G s as) :
    outputs next out s' as' = outputs next out s as ∧ R (run next s as) (run next s' as') := by
  induction hQ generalizing s s' with
  | nil => exact ⟨rfl, hR⟩
  | cons hQ _ ih =>
    obtain ⟨hout, hnext⟩ := step _ _ _ _ hR hQ hG.1
    obtain ⟨houts, hrun⟩ := ih hnext hG.2
    refine ⟨?_, hrun⟩
    rw [outputs, outputs, hout, houts]

theorem guarded_of_outputs (refl : ∀ a, Q a a)
    (alone : ∀ s a, (∀ a', Q a a' → out s a' = out s a) → G s a) {s : σ} {as : List α}
    (h : ∀ as', List.Forall₂ Q as as' → outputs next out s as' = outputs next out s as) :
    Guarded next G s as := by
  induction as generalizing s with
  | nil => trivial
  | cons a as ih =>
    constructor
    · apply alone
      intro a' ha'
      have hrest : List.Forall₂ Q as as := List.forall₂_same.mpr fun x _ => refl x
      exact (List.cons.inj (h (a' :: as) (.cons ha' hrest))).1
    · apply ih
      intro as' has'
      exact (List.cons.inj (h (a :: as') (.cons (refl a) has'))).2

end Machine
