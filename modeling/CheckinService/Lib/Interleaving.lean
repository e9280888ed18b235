import CheckinService.Lib.Machine
import Mathlib.Logic.Function.Basic

namespace Interleaving

universe u v w x

structure Config (σ : Type u) (ι : Type v) (π : Type w) where
  shared : σ
  locals : ι → π

variable {σ : Type u} {ι : Type v} {π : Type w} [DecidableEq ι] (step : ι → σ → π → σ × π)

def turn (c : Config σ ι π) (i : ι) : Config σ ι π :=
  ⟨(step i c.shared (c.locals i)).1,
    Function.update c.locals i (step i c.shared (c.locals i)).2⟩

@[simp] theorem turn_shared (c : Config σ ι π) (i : ι) :
    (turn step c i).shared = (step i c.shared (c.locals i)).1 := rfl

@[simp] theorem turn_locals_self (c : Config σ ι π) (i : ι) :
    (turn step c i).locals i = (step i c.shared (c.locals i)).2 := by simp [turn]

theorem turn_locals_of_ne (c : Config σ ι π) {i j : ι} (h : j ≠ i) :
    (turn step c i).locals j = c.locals j := by simp [turn, h]

theorem turn_map {τ : Type x} (f : π → τ) (c : Config σ ι π) (i : ι) :
    (fun j => f ((turn step c i).locals j)) =
      Function.update (fun j => f (c.locals j)) i (f (step i c.shared (c.locals i)).2) := by
  funext j
  by_cases hji : j = i
  · subst hji
    simp
  · rw [turn_locals_of_ne step c hji, Function.update_of_ne hji]

theorem turn_forall {P : ι → σ → π → Prop} {c : Config σ ι π} {i : ι}
    (own : P i (step i c.shared (c.locals i)).1 (step i c.shared (c.locals i)).2)
    (stable : ∀ j, j ≠ i → P j (step i c.shared (c.locals i)).1 (c.locals j)) (j : ι) :
    P j (turn step c i).shared ((turn step c i).locals j) := by
  by_cases h : j = i
  · subst h
    rw [turn_locals_self]
    exact own
  · rw [turn_locals_of_ne step c h]
    exact stable j h

theorem turn_forall_iff {P : ι → π → Prop} {c : Config σ ι π} {i : ι} :
    (∀ j, P j ((turn step c i).locals j)) ↔
      P i (step i c.shared (c.locals i)).2 ∧ ∀ j, j ≠ i → P j (c.locals j) := by
  constructor
  · intro h
    refine ⟨?_, ?_⟩
    · rw [← turn_locals_self step c i]
      exact h i
    · intro j hj
      rw [← turn_locals_of_ne step c hj]
      exact h j
  · rintro ⟨own, others⟩
    exact turn_forall (P := fun j _ p => P j p) step own others

omit [DecidableEq ι] in
theorem forall_iff_self {P : ι → π → Prop} {locals : ι → π} (i : ι) :
    (∀ j, P j (locals j)) ↔ P i (locals i) ∧ ∀ j, j ≠ i → P j (locals j) := by
  constructor
  · intro h
    exact ⟨h i, fun j _ => h j⟩
  · rintro ⟨own, others⟩ j
    by_cases hj : j = i
    · rw [hj]
      exact own
    · exact others j hj

theorem turn_exists_of_ne {P : π → Prop} {c : Config σ ι π} {i j : ι} (h : j ≠ i)
    (hj : P (c.locals j)) : ∃ k, P ((turn step c i).locals k) := by
  refine ⟨j, ?_⟩
  rw [turn_locals_of_ne step c h]
  exact hj

theorem turn_exists_self {P : π → Prop} {c : Config σ ι π} {i : ι}
    (hi : P (step i c.shared (c.locals i)).2) : ∃ k, P ((turn step c i).locals k) := by
  refine ⟨i, ?_⟩
  rw [turn_locals_self]
  exact hi

/-- A process that comes nearer to its end at each of its turns, whatever the others do, is there
after as many turns as it was away from it. -/
theorem run_rank_le {rank : π → ℕ} (less : ∀ i s p, rank (step i s p).2 ≤ rank p - 1)
    (schedule : List ι) (c : Config σ ι π) (i : ι) :
    rank ((Machine.run (turn step) c schedule).locals i) ≤
      rank (c.locals i) - schedule.count i := by
  induction schedule generalizing c with
  | nil => exact Nat.le_refl _
  | cons j schedule ih =>
    rw [Machine.run]
    have hrest := ih (turn step c j)
    by_cases hij : i = j
    · subst hij
      have hturn := less i c.shared (c.locals i)
      rw [turn_locals_self] at hrest
      rw [List.count_cons_self]
      omega
    · rw [turn_locals_of_ne step c hij] at hrest
      rw [List.count_cons_of_ne (Ne.symm hij)]
      exact hrest

end Interleaving
