import CheckinService.Lib.Interleaving
import Mathlib.Algebra.Order.BigOperators.Group.Finset

namespace Interleaving

universe u v w

variable {σ : Type u} {ι : Type v} {π : Type w} [DecidableEq ι]

structure Lively (step : ι → σ → π → σ × π) (J : Config σ ι π → Prop) (rank : π → ℕ) : Prop where
  keep : ∀ c i, J c → J (turn step c i)
  idle : ∀ c i, rank (step i c.shared (c.locals i)).2 < rank (c.locals i) ∨ turn step c i = c
  moves : ∀ c, J c → ∀ i, rank (c.locals i) ≠ 0 →
    ∃ j, rank (step j c.shared (c.locals j)).2 < rank (c.locals j)

variable [Fintype ι]

def distance (rank : π → ℕ) (c : Config σ ι π) : ℕ := ∑ i, rank (c.locals i)

variable {step : ι → σ → π → σ × π} {J : Config σ ι π → Prop} {rank : π → ℕ}
  {c : Config σ ι π}

theorem distance_turn_lt {i : ι}
    (h : rank (step i c.shared (c.locals i)).2 < rank (c.locals i)) :
    distance rank (turn step c i) < distance rank c := by
  apply Finset.sum_lt_sum
  · intro j _
    by_cases hji : j = i
    · subst hji
      rw [turn_locals_self]
      exact h.le
    · rw [turn_locals_of_ne step c hji]
  · refine ⟨i, Finset.mem_univ i, ?_⟩
    rw [turn_locals_self]
    exact h

theorem Lively.run_lt_or_eq (h : Lively step J rank) (schedule : List ι) (c : Config σ ι π) :
    distance rank (Machine.run (turn step) c schedule) < distance rank c ∨
      Machine.run (turn step) c schedule = c ∧
        ∀ i ∈ schedule, ¬ rank (step i c.shared (c.locals i)).2 < rank (c.locals i) := by
  induction schedule generalizing c with
  | nil => exact Or.inr ⟨rfl, fun _ h => by cases h⟩
  | cons i schedule ih =>
    rw [Machine.run]
    by_cases hnearer : rank (step i c.shared (c.locals i)).2 < rank (c.locals i)
    · have hturn : distance rank (turn step c i) < distance rank c := distance_turn_lt hnearer
      rcases ih (turn step c i) with hrest | ⟨hrest, -⟩
      · exact Or.inl (hrest.trans hturn)
      · rw [hrest]
        exact Or.inl hturn
    · rw [(h.idle c i).resolve_left hnearer]
      rcases ih c with hrest | ⟨hrest, hnone⟩
      · exact Or.inl hrest
      · exact Or.inr ⟨hrest, List.forall_mem_cons.mpr ⟨hnearer, hnone⟩⟩

theorem Lively.round_lt (h : Lively step J rank) (hc : J c) {round : List ι}
    (hfair : ∀ i, i ∈ round) (hfar : distance rank c ≠ 0) :
    distance rank (Machine.run (turn step) c round) < distance rank c := by
  rcases h.run_lt_or_eq round c with hlt | ⟨-, hnone⟩
  · exact hlt
  · obtain ⟨i, -, hi⟩ := Finset.exists_ne_zero_of_sum_ne_zero hfar
    obtain ⟨j, hj⟩ := h.moves c hc i hi
    exact absurd hj (hnone j (hfair j))

/-- After as many fair rounds as there are steps to go, every process is at its end. -/
theorem Lively.fair_run (h : Lively step J rank) (hc : J c) {rounds : List (List ι)}
    (hfair : ∀ round ∈ rounds, ∀ i, i ∈ round) (hlong : distance rank c ≤ rounds.length) (i : ι) :
    rank ((Machine.run (turn step) c rounds.flatten).locals i) = 0 := by
  suffices hend : distance rank (Machine.run (turn step) c rounds.flatten) = 0 from
    Finset.sum_eq_zero_iff.mp hend i (Finset.mem_univ i)
  induction rounds generalizing c with
  | nil => exact Nat.le_zero.mp hlong
  | cons round rounds ih =>
    obtain ⟨hround, hrounds⟩ := List.forall_mem_cons.mp hfair
    rw [List.flatten_cons, Machine.run_append]
    have hkept : J (Machine.run (turn step) c round) :=
      Machine.run_invariant (fun c i => h.keep c i) hc round
    apply ih hkept hrounds
    by_cases hfar : distance rank c = 0
    · rcases h.run_lt_or_eq round c with hlt | ⟨hsame, -⟩
      · omega
      · rw [hsame, hfar]
        exact Nat.zero_le _
    · have hlt := h.round_lt hc hround hfar
      rw [List.length_cons] at hlong
      omega

end Interleaving
