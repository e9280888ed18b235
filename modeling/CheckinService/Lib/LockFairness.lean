import CheckinService.Lib.Fairness
import CheckinService.Lib.Locking

/-! Processes that hold one lock at most, and wait for another only while they hold none.  They
cannot lock each other out. -/

namespace Locking

open Interleaving

universe u v w x

variable {σ : Type u} {ι : Type v} {π : Type w} {κ : Type x} [DecidableEq ι] [DecidableEq κ]

/-- A turn that brings a process no nearer to its end has no effect, and finds it at its end or
waiting, with nothing in its hands, for a lock that is taken. -/
structure Yields (step : ι → σ → π → σ × π) (locks : σ → Locks κ ι) (held : ι → π → Option κ)
    (rank : π → ℕ) : Prop where
  lockMove : ∀ i s p, LockMove i (locks s) (held i p) (locks (step i s p).1)
    (held i (step i s p).2)
  progress : ∀ i s p, rank (step i s p).2 < rank p ∨
    step i s p = (s, p) ∧ (rank p ≠ 0 → held i p = none ∧ ∃ k, locks s k ≠ none)
  ended : ∀ i p, rank p = 0 → held i p = none

def NoneLeft (locks : σ → Locks κ ι) (held : ι → π → Option κ) (c : Config σ ι π) : Prop :=
  Backed (locks c.shared) fun j => held j (c.locals j)

variable {step : ι → σ → π → σ × π} {locks : σ → Locks κ ι} {held : ι → π → Option κ}
  {rank : π → ℕ} {c : Config σ ι π}

theorem Yields.noneLeft (h : Yields step locks held rank) (i : ι) (hc : NoneLeft locks held c) :
    NoneLeft locks held (turn step c i) := by
  apply Backed.move (i := i) hc
  · rw [turn_locals_self]
    exact h.lockMove i c.shared (c.locals i)
  · intro j hji
    rw [turn_locals_of_ne step c hji]

theorem Yields.lively (h : Yields step locks held rank) :
    Lively step (NoneLeft locks held) rank where
  keep _ i hc := h.noneLeft i hc
  idle := by
    intro c i
    apply (h.progress i c.shared (c.locals i)).imp_right
    rintro ⟨hsame, -⟩
    rw [turn, hsame, Function.update_eq_self]
  moves := by
    intro c hc i hi
    by_contra hstuck
    push Not at hstuck
    have hwaits : ∀ j, rank (c.locals j) ≠ 0 →
        held j (c.locals j) = none ∧ ∃ k, locks c.shared k ≠ none := by
      intro j hj
      rcases h.progress j c.shared (c.locals j) with hlt | ⟨-, hwait⟩
      · exact absurd hlt (hstuck j).not_gt
      · exact hwait hj
    -- whoever has the lock that `i` waits for is under way, and so does not wait itself
    obtain ⟨k, hk⟩ := (hwaits i hi).2
    obtain ⟨j, hj⟩ := Option.ne_none_iff_exists'.mp hk
    have hheld : held j (c.locals j) = some k := hc j k hj
    have hunderway : rank (c.locals j) ≠ 0 := by
      intro hrank
      rw [h.ended j _ hrank] at hheld
      cases hheld
    rw [(hwaits j hunderway).1] at hheld
    cases hheld

/-- Whatever has gone before, after enough fair rounds all are at their ends, and no lock is
held. -/
theorem Yields.fair_run [Fintype ι] (h : Yields step locks held rank) {n : ℕ}
    (hrank : ∀ p, rank p ≤ n) (hstart : NoneLeft locks held c) (schedule : List ι)
    {rounds : List (List ι)} (hfair : ∀ round ∈ rounds, ∀ i, i ∈ round)
    (hlong : n * Fintype.card ι ≤ rounds.length) :
    let d := Machine.run (turn step) c (schedule ++ rounds.flatten)
    (∀ i, rank (d.locals i) = 0) ∧ locks d.shared = Locks.free := by
  intro d
  have hkeep : ∀ schedule, NoneLeft locks held (Machine.run (turn step) c schedule) :=
    Machine.run_invariant (fun _ i hc => h.noneLeft i hc) hstart
  have hdistance : distance rank (Machine.run (turn step) c schedule) ≤ rounds.length := by
    calc
      distance rank (Machine.run (turn step) c schedule) ≤ ∑ _i : ι, n :=
        Finset.sum_le_sum fun i _ => hrank _
      _ = n * Fintype.card ι := by simp [mul_comm]
      _ ≤ rounds.length := hlong
  have hends : ∀ i, rank (d.locals i) = 0 := by
    simp only [d, Machine.run_append]
    exact h.lively.fair_run (hkeep schedule) hfair hdistance
  refine ⟨hends, ?_⟩
  funext k
  rw [Locks.free, Option.eq_none_iff_forall_ne_some]
  intro i hi
  have hheld : held i (d.locals i) = some k := hkeep _ i k hi
  rw [h.ended i _ (hends i)] at hheld
  cases hheld

end Locking
