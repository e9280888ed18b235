import Mathlib.Algebra.Order.Group.Defs
import Mathlib.Algebra.Order.Group.Unbundled.Basic
import Mathlib.Algebra.Order.Sub.Defs
import Mathlib.Data.List.Basic
import Mathlib.Data.List.Pairwise
import Mathlib.Logic.Function.Basic

/-! Sliding windows over a log of instants.  A deque that is pruned when it is looked at, and at
no other time, stands for the whole log as long as the clock does not run backwards. -/

namespace SlidingWindow

universe u v

variable {α : Type u} {κ : Type v} [AddCommGroup α] [LinearOrder α]

def recent (window : α) (log : List α) (now : α) : List α := log.filter fun t => now - window ≤ t

/-- The same by dropping the front, which is enough for a sorted list. -/
def expire (window : α) (deque : List α) (now : α) : List α :=
  deque.dropWhile fun t => t < now - window

def Paced (window : α) (max : Nat) (log : List α) : Prop :=
  ∀ start, (log.filter fun t => start ≤ t && t ≤ start + window).length ≤ max

/-- Up to `now`, the deque shows the same windows as the log. -/
structure Tracks (window now : α) (deque log : List α) : Prop where
  sorted : deque.Pairwise (· ≤ ·)
  past : ∀ t ∈ log, t ≤ now
  same : ∀ start, now - window ≤ start →
    (deque.filter fun t => start ≤ t) = log.filter fun t => start ≤ t

structure Metered (window : α) (max : Nat) (now : α) (deques logs : κ → List α) : Prop where
  tracks : ∀ k, Tracks window now (deques k) (logs k)
  paced : ∀ k, Paced window max (logs k)

variable {window now now' : α} {deque log : List α} {max : Nat} {deques logs : κ → List α}

theorem expire_eq_recent (h : deque.Pairwise (· ≤ ·)) :
    expire window deque now = recent window deque now := by
  induction deque with
  | nil => rfl
  | cons t deque ih =>
    obtain ⟨hfirst, hrest⟩ := List.pairwise_cons.mp h
    rw [expire, recent, List.dropWhile_cons, List.filter_cons]
    by_cases ht : t < now - window
    · simp only [ht, not_le.mpr ht, decide_true, decide_false, if_true, Bool.false_eq_true,
        if_false]
      exact ih hrest
    · have hall : ∀ t' ∈ deque, now - window ≤ t' :=
        fun t' ht' => (not_lt.mp ht).trans (hfirst t' ht')
      simp only [ht, not_lt.mp ht, decide_true, decide_false, if_true, Bool.false_eq_true,
        if_false]
      rw [List.filter_eq_self.mpr (by simpa using hall)]

theorem Tracks.empty : Tracks window now ([] : List α) [] :=
  ⟨List.Pairwise.nil, by simp, fun _ _ => rfl⟩

theorem Tracks.expire_eq (h : Tracks window now deque log) :
    expire window deque now = recent window log now := by
  rw [expire_eq_recent h.sorted]
  exact h.same (now - window) le_rfl

theorem Tracks.pruned (h : Tracks window now deque log) :
    Tracks window now (expire window deque now) log where
  sorted := h.sorted.sublist (List.dropWhile_sublist _)
  past := h.past
  same start hstart := by
    rw [h.expire_eq, recent, List.filter_filter]
    apply List.filter_congr
    intro t _
    rw [Bool.eq_iff_iff]
    simp only [Bool.and_eq_true, decide_eq_true_eq]
    exact ⟨And.left, fun ht => ⟨ht, hstart.trans ht⟩⟩

theorem Tracks.push (h : Tracks window now deque log) (hpast : ∀ t ∈ deque, t ≤ now) :
    Tracks window now (deque ++ [now]) (log ++ [now]) where
  sorted := by
    rw [List.pairwise_append]
    refine ⟨h.sorted, List.pairwise_singleton _ _, ?_⟩
    intro t ht t' ht'
    rw [List.mem_singleton.mp ht']
    exact hpast t ht
  past t ht := by
    rcases List.mem_append.mp ht with ht | ht
    · exact h.past t ht
    · rw [List.mem_singleton.mp ht]
  same start hstart := by
    rw [List.filter_append, List.filter_append, h.same start hstart]

theorem Tracks.expired_past (h : Tracks window now deque log) :
    ∀ t ∈ expire window deque now, t ≤ now := by
  intro t ht
  rw [h.expire_eq] at ht
  exact h.past t (List.mem_filter.mp ht).1

theorem Paced.nil : Paced window max ([] : List α) := by
  intro start
  exact Nat.zero_le max

theorem expire_length_lt_iff {t : α} :
    (expire window (t :: deque) now).length < (t :: deque).length ↔ t < now - window := by
  rw [expire, List.dropWhile_cons]
  by_cases ht : t < now - window
  · have hle : (deque.dropWhile fun t => decide (t < now - window)).length ≤ deque.length :=
      (List.dropWhile_sublist _).length_le
    simp only [ht, decide_true, if_true, iff_true, List.length_cons]
    omega
  · simp [ht]

theorem Metered.empty : Metered window max now (fun _ : κ => ([] : List α)) fun _ => [] :=
  ⟨fun _ => .empty, fun _ => .nil⟩

theorem Metered.expire_eq (h : Metered window max now deques logs) (k : κ) :
    expire window (deques k) now = recent window (logs k) now := (h.tracks k).expire_eq

theorem Metered.pruned [DecidableEq κ] (h : Metered window max now deques logs) (k : κ) :
    Metered window max now (Function.update deques k (expire window (deques k) now)) logs := by
  refine ⟨?_, h.paced⟩
  intro k'
  by_cases hk : k' = k
  · subst hk
    rw [Function.update_self]
    exact (h.tracks k').pruned
  · rw [Function.update_of_ne hk]
    exact h.tracks k'

theorem Metered.expire_in (h : Metered window max now deques logs) {k : κ} {t : α}
    (ht : t ∈ expire window (deques k) now) : now - window ≤ t := by
  rw [h.expire_eq] at ht
  exact of_decide_eq_true (List.mem_filter.mp ht).2

variable [IsOrderedAddMonoid α]

theorem Tracks.later (h : Tracks window now deque log) (hle : now ≤ now') :
    Tracks window now' deque log where
  sorted := h.sorted
  past t ht := (h.past t ht).trans hle
  same start hstart := h.same start ((sub_le_sub_right hle window).trans hstart)

theorem Paced.push (h : Paced window max log) (hroom : (recent window log now).length < max) :
    Paced window max (log ++ [now]) := by
  intro start
  rw [List.filter_append, List.length_append]
  by_cases hin : start ≤ now ∧ now ≤ start + window
  · -- the window that holds the new entry starts no earlier than the one that ends with it
    have hsub : (log.filter fun t => start ≤ t && t ≤ start + window).length ≤
        (recent window log now).length := by
      apply List.Sublist.length_le
      apply List.monotone_filter_right
      intro t ht
      simp only [Bool.and_eq_true, decide_eq_true_eq] at ht ⊢
      exact (sub_le_iff_le_add.mpr hin.2).trans ht.1
    have hlast : ([now].filter fun t => start ≤ t && t ≤ start + window).length ≤ 1 :=
      List.length_filter_le _ _
    omega
  · have hout : ([now].filter fun t => start ≤ t && t ≤ start + window) = [] := by
      simpa using hin
    rw [hout]
    exact h start

theorem Paced.recent_length (h : Paced window max log) (hpast : ∀ t ∈ log, t ≤ now) :
    (recent window log now).length ≤ max := by
  have hsame : recent window log now =
      log.filter fun t => now - window ≤ t && t ≤ now - window + window := by
    apply List.filter_congr
    intro t ht
    simp [hpast t ht]
  rw [hsame]
  exact h (now - window)

theorem Metered.later (h : Metered window max now deques logs) (hle : now ≤ now') :
    Metered window max now' deques logs := ⟨fun k => (h.tracks k).later hle, h.paced⟩

theorem Metered.pushed [DecidableEq κ] (h : Metered window max now deques logs) (k : κ)
    (hroom : (recent window (logs k) now).length < max) :
    Metered window max now (Function.update deques k (expire window (deques k) now ++ [now]))
      (Function.update logs k (logs k ++ [now])) := by
  constructor
  · intro k'
    by_cases hk : k' = k
    · subst hk
      rw [Function.update_self, Function.update_self]
      exact (h.tracks k').pruned.push (h.tracks k').expired_past
    · rw [Function.update_of_ne hk, Function.update_of_ne hk]
      exact h.tracks k'
  · intro k'
    by_cases hk : k' = k
    · subst hk
      rw [Function.update_self]
      exact (h.paced k').push hroom
    · rw [Function.update_of_ne hk]
      exact h.paced k'

theorem Metered.full_length (h : Metered window max now deques logs) (k : κ)
    (hfull : max ≤ (expire window (deques k) now).length) :
    (expire window (deques k) now).length = max := by
  rw [h.expire_eq] at hfull ⊢
  exact le_antisymm ((h.paced k).recent_length (h.tracks k).past) hfull

end SlidingWindow
