import Mathlib.Algebra.Order.Field.Basic
import Mathlib.Data.Set.Insert
import Mathlib.Tactic.Linarith
import Mathlib.Tactic.Ring

namespace SpeedLimit

universe u v

variable {P : Type u} {α : Type v} [Field α] [LinearOrder α]

structure Visit (P : Type u) (α : Type v) where
  place : P
  time : α

def Reaches (distance : P → P → α) (speed window : α) (v w : Visit P α) : Prop :=
  v.time ≤ w.time → w.time ≤ v.time + window →
    distance v.place w.place ≤ speed * (w.time - v.time)

def Limited (distance : P → P → α) (speed window : α) (visits : Set (Visit P α)) : Prop :=
  ∀ v ∈ visits, ∀ w ∈ visits, Reaches distance speed window v w

structure IsMetric (distance : P → P → α) : Prop where
  self : ∀ p, distance p p = 0
  eq_of_zero : ∀ p q, distance p q = 0 → p = q
  symm : ∀ p q, distance p q = distance q p
  triangle : ∀ p q r, distance p r ≤ distance p q + distance q r

variable {distance : P → P → α} {speed window : α} {visits visits' : Set (Visit P α)}
  {v w x : Visit P α}

theorem Limited.empty : Limited distance speed window ∅ := by
  intro v hv
  cases hv

theorem Limited.subset (h : Limited distance speed window visits) (hsub : visits' ⊆ visits) :
    Limited distance speed window visits' :=
  fun v hv w hw => h v (hsub hv) w (hsub hw)

variable [IsStrictOrderedRing α]

theorem Reaches.of_place_eq (hmetric : IsMetric distance) (hspeed : 0 ≤ speed)
    (hplace : v.place = w.place) : Reaches distance speed window v w := by
  intro hle _
  rw [hplace, hmetric.self]
  exact mul_nonneg hspeed (sub_nonneg.mpr hle)

theorem Reaches.trans (hmetric : IsMetric distance) (hvw : Reaches distance speed window v w)
    (hwx : Reaches distance speed window w x) (hv : v.time ≤ w.time) (hw : w.time ≤ x.time) :
    Reaches distance speed window v x := by
  intro _ hwindow
  calc
    distance v.place x.place ≤ distance v.place w.place + distance w.place x.place :=
      hmetric.triangle _ _ _
    _ ≤ speed * (w.time - v.time) + speed * (x.time - w.time) :=
      add_le_add (hvw hv (hw.trans hwindow)) (hwx hw (by linarith))
    _ = speed * (x.time - v.time) := by ring

/-- A visit that comes after the others, and is in reach of the latest that the window still
shows, is in reach of them all. -/
theorem Limited.insert (hmetric : IsMetric distance) (hspeed : 0 ≤ speed)
    (h : Limited distance speed window visits) (hpast : ∀ v ∈ visits, v.time ≤ x.time)
    (hlatest : (∀ v ∈ visits, ¬ x.time ≤ v.time + window) ∨
      ∃ w ∈ visits, Reaches distance speed window w x ∧
        ∀ v ∈ visits, x.time ≤ v.time + window → v.time ≤ w.time) :
    Limited distance speed window (insert x visits) := by
  have hself : ∀ v : Visit P α, v.place = x.place → Reaches distance speed window v x :=
    fun v => Reaches.of_place_eq hmetric hspeed
  have hnew : ∀ v ∈ visits, Reaches distance speed window v x := by
    intro v hv hle hwindow
    rcases hlatest with hnone | ⟨w, hw, hreach, hlast⟩
    · exact absurd hwindow (hnone v hv)
    · exact (h v hv w hw).trans hmetric hreach (hlast v hv hwindow) (hpast w hw) hle hwindow
  intro v hv w hw
  rcases hv with rfl | hv
  · rcases hw with rfl | hw
    · exact hself _ rfl
    · -- the other visit is no later, so that both happened at once
      intro hle hwindow
      have htime : w.time = v.time := le_antisymm (hpast w hw) hle
      have hback := hnew w hw htime.le (by linarith)
      rw [hmetric.symm]
      rw [htime] at hback ⊢
      exact hback
  · rcases hw with rfl | hw
    · exact hnew v hv
    · exact h v hv w hw

end SpeedLimit
