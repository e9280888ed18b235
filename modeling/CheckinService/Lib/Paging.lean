import Mathlib.Data.List.Basic
import Mathlib.Data.List.Range
import Mathlib.Data.Nat.Find

namespace Paging

universe u

variable {α : Type u}

def page (l : List α) (limit k : Nat) : List α := (l.drop (k * limit)).take limit

variable {l : List α} {limit : Nat}

theorem page_eq_nil_iff (hlimit : 0 < limit) {k : Nat} :
    page l limit k = [] ↔ l.length ≤ k * limit := by
  rw [page, List.take_eq_nil_iff, List.drop_eq_nil_iff]
  omega

theorem flatMap_page (l : List α) (limit n : Nat) :
    (List.range n).flatMap (page l limit) = l.take (n * limit) := by
  induction n with
  | zero => simp
  | succ n ih =>
    calc
      (List.range (n + 1)).flatMap (page l limit) = l.take (n * limit) ++ page l limit n := by
        rw [List.range_succ, List.flatMap_append, ih, List.flatMap_singleton]
      _ = l.take (n * limit + limit) := List.take_add.symm
      _ = l.take ((n + 1) * limit) := by rw [Nat.succ_mul]

theorem pages_until_empty (l : List α) (hlimit : 0 < limit) :
    ∃ n, (∀ k < n, page l limit k ≠ []) ∧ page l limit n = [] ∧
      (List.range n).flatMap (page l limit) = l := by
  have hends : ∃ n, l.length ≤ n * limit := ⟨l.length, Nat.le_mul_of_pos_right _ hlimit⟩
  refine ⟨Nat.find hends, ?_, ?_, ?_⟩
  · intro k hk
    rw [ne_eq, page_eq_nil_iff hlimit]
    exact Nat.find_min hends hk
  · exact (page_eq_nil_iff hlimit).mpr (Nat.find_spec hends)
  · rw [flatMap_page]
    exact List.take_of_length_le (Nat.find_spec hends)

end Paging
