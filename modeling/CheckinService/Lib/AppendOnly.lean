import CheckinService.Lib.Machine
import Mathlib.Data.List.Infix

namespace Machine

universe u v w

variable {σ : Type u} {α : Type v} {ρ : Type w}

def Appends (next : σ → α → σ) (log : σ → List ρ) (f : σ → α → ρ → ρ) : Prop :=
  ∀ s a, (log s).map (f s a) <+: log (next s a)

variable {next : σ → α → σ} {log : σ → List ρ} {f : σ → α → ρ → ρ} {F : σ → List α → ρ → ρ}

theorem Appends.mem (h : Appends next log f) {s : σ} (a : α) {r : ρ} (hr : r ∈ log s) :
    f s a r ∈ log (next s a) :=
  (h s a).subset (List.mem_map_of_mem hr)

/-- The run rule: `F` is what the steps make of an entry, one after the other. -/
theorem Appends.run (h : Appends next log f) (nil : ∀ s, ∀ r ∈ log s, F s [] r = r)
    (cons : ∀ s a as, ∀ r ∈ log s, F s (a :: as) r = F (next s a) as (f s a r)) (s : σ)
    (as : List α) : (log s).map (F s as) <+: log (Machine.run next s as) := by
  induction as generalizing s with
  | nil =>
    rw [List.map_congr_left (nil s), List.map_id']
    exact List.prefix_refl (log s)
  | cons a as ih =>
    have hstep : (log s).map (F s (a :: as)) = ((log s).map (f s a)).map (F (next s a) as) := by
      rw [List.map_map]
      exact List.map_congr_left (cons s a as)
    rw [hstep]
    exact ((h s a).map _).trans (ih (next s a))

end Machine
