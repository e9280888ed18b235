import CheckinService.Lib.Interleaving
import Mathlib.Data.List.Infix
import Mathlib.Data.List.Nodup
import Mathlib.Data.List.Pairwise

namespace Interleaving

universe u v w x

variable {ι : Type u} {ρ : Type v}

def Logged (old log : List ρ) (entry : ι → Option ρ) : Prop :=
  ∃ order : List ι, order.Nodup ∧ (∀ i, i ∈ order ↔ (entry i).isSome = true) ∧
    log = old ++ order.filterMap entry

inductive Enters (log : List ρ) : Option ρ → List ρ → Option ρ → Prop where
  | rest {mine} : Enters log mine log mine
  | enter {r} : Enters log none (log ++ [r]) (some r)

variable {old log log' : List ρ} {entry : ι → Option ρ}

theorem Logged.start (old : List ρ) (h : ∀ i, entry i = none) : Logged old old entry := by
  refine ⟨[], List.nodup_nil, ?_, by simp⟩
  intro i
  simp [h i]

theorem Logged.enter [DecidableEq ι] (h : Logged old log entry) (i : ι) {mine : Option ρ}
    (henters : Enters log (entry i) log' mine) :
    Logged old log' (Function.update entry i mine) := by
  obtain ⟨order, hnodup, hmem, hlog⟩ := h
  generalize hbefore : entry i = before at henters
  cases henters with
  | rest =>
    rw [← hbefore, Function.update_eq_self]
    exact ⟨order, hnodup, hmem, hlog⟩
  | @enter r =>
    have hnew : i ∉ order := by simp [hmem i, hbefore]
    have hsame : order.filterMap (Function.update entry i (some r)) = order.filterMap entry := by
      apply List.filterMap_congr
      intro j hj
      have hji : j ≠ i := by
        rintro rfl
        exact hnew hj
      exact Function.update_of_ne hji _ _
    refine ⟨order ++ [i], ?_, ?_, ?_⟩
    · rw [← List.concat_eq_append]
      exact hnodup.concat hnew
    · intro j
      by_cases hji : j = i
      · simp [hji]
      · simp [hji, hmem j]
    · simp [hsame, hlog]

theorem Logged.mem (h : Logged old log entry) {i : ι} {r : ρ} (hr : entry i = some r) :
    r ∈ log := by
  obtain ⟨order, -, hmem, rfl⟩ := h
  have hi : i ∈ order := (hmem i).mpr (by simp [hr])
  exact List.mem_append_right _ (List.mem_filterMap.mpr ⟨i, hi, hr⟩)

theorem Logged.grown (h : Logged old log entry) : old <+: log := by
  obtain ⟨order, -, -, rfl⟩ := h
  exact List.prefix_append _ _

theorem Logged.origin (h : Logged old log entry) {r : ρ} (hr : r ∈ log) :
    r ∈ old ∨ ∃ i, entry i = some r := by
  obtain ⟨order, -, -, rfl⟩ := h
  rcases List.mem_append.mp hr with hr | hr
  · exact Or.inl hr
  · obtain ⟨i, -, hi⟩ := List.mem_filterMap.mp hr
    exact Or.inr ⟨i, hi⟩

theorem Logged.injective (h : Logged old log entry) (hlog : log.Nodup) {i j : ι} {r : ρ}
    (hi : entry i = some r) (hj : entry j = some r) : i = j := by
  obtain ⟨order, -, hmem, rfl⟩ := h
  have hapart : order.Pairwise fun i j =>
      ∀ r, entry i = some r → ∀ r', entry j = some r' → r ≠ r' :=
    List.pairwise_filterMap.mp hlog.of_append_right
  have : Std.Symm fun i j => ∀ r, entry i = some r → ∀ r', entry j = some r' → r ≠ r' := by
    constructor
    intro i j h r hr r' hr'
    exact (h r' hr' r hr).symm
  have hi' : i ∈ order := (hmem i).mpr (by simp [hi])
  have hj' : j ∈ order := (hmem j).mpr (by simp [hj])
  by_contra hij
  exact hapart.forall hi' hj' hij r hi r hj rfl

section

variable {σ : Type w} {π : Type x} [DecidableEq ι] {step : ι → σ → π → σ × π}

theorem Logged.after_turn (log : σ → List ρ) (entry : π → Option ρ) {c : Config σ ι π} {i : ι}
    (h : Logged old (log c.shared) fun j => entry (c.locals j))
    (henters : Enters (log c.shared) (entry (c.locals i))
      (log (step i c.shared (c.locals i)).1) (entry (step i c.shared (c.locals i)).2)) :
    Logged old (log (turn step c i).shared) fun j => entry ((turn step c i).locals j) := by
  rw [turn_map]
  exact h.enter i henters

end

end Interleaving
