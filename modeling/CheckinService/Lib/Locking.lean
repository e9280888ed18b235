import Mathlib.Logic.Function.Basic

namespace Locking

universe u v

variable {κ : Type u} {ι : Type v} [DecidableEq κ]

abbrev Locks (κ : Type u) (ι : Type v) := κ → Option ι

namespace Locks

def free : Locks κ ι := fun _ => none

def acquire (l : Locks κ ι) (k : κ) (i : ι) : Locks κ ι := Function.update l k (some i)

def release (l : Locks κ ι) (k : κ) : Locks κ ι := Function.update l k none

theorem release_acquire {l : Locks κ ι} {k : κ} {i : ι} (h : l k = none) :
    (l.acquire k i).release k = l := by
  funext k'
  by_cases hk : k' = k
  · subst hk
    simp [acquire, release, h]
  · simp [acquire, release, hk]

end Locks

inductive LockMove (i : ι) (l : Locks κ ι) : Option κ → Locks κ ι → Option κ → Prop where
  | keep {held} : LockMove i l held l held
  | acquire {k} (free : l k = none) : LockMove i l none (l.acquire k i) (some k)
  | release {k} : LockMove i l (some k) (l.release k) none

def Owned (l : Locks κ ι) (held : ι → Option κ) : Prop := ∀ i k, held i = some k → l k = some i

variable {l l' : Locks κ ι} {held held' : ι → Option κ} {i j : ι} {k : κ}

omit [DecidableEq κ] in
theorem Owned.unique (h : Owned l held) (hi : held i = some k) (hj : held j = some k) : i = j :=
  Option.some.inj ((h i k hi).symm.trans (h j k hj))

theorem Owned.move (h : Owned l held) (hmove : LockMove i l (held i) l' (held' i))
    (hother : ∀ j, j ≠ i → held' j = held j) : Owned l' held' := by
  intro j k hj
  by_cases hji : j = i
  · subst hji
    generalize hb : held j = b at hmove
    generalize ha : held' j = a at hmove
    rw [ha] at hj
    cases hmove with
    | keep =>
      rw [← hb] at hj
      exact h j k hj
    | acquire free =>
      cases hj
      exact Function.update_self _ _ _
    | release => cases hj
  · rw [hother j hji] at hj
    have hkept := h j k hj
    generalize hb : held i = b at hmove
    generalize ha : held' i = a at hmove
    cases hmove with
    | keep => exact hkept
    | @acquire k' free =>
      -- a lock that was free is not the one `j` holds
      have hne : k ≠ k' := by
        rintro rfl
        rw [free] at hkept
        cases hkept
      exact (Function.update_of_ne hne _ _).trans hkept
    | @release k' =>
      have hne : k ≠ k' := by
        rintro rfl
        exact hji (h.unique hj hb)
      exact (Function.update_of_ne hne _ _).trans hkept

/-- Whoever a lock belongs to knows that it holds it: no lock is left behind. -/
def Backed (l : Locks κ ι) (held : ι → Option κ) : Prop := ∀ i k, l k = some i → held i = some k

theorem Backed.move (h : Backed l held) (hmove : LockMove i l (held i) l' (held' i))
    (hother : ∀ j, j ≠ i → held' j = held j) : Backed l' held' := by
  intro j k hj
  generalize hb : held i = b at hmove
  generalize ha : held' i = a at hmove
  cases hmove with
  | keep =>
    have hkept := h j k hj
    by_cases hji : j = i
    · subst hji
      exact (ha.trans hb.symm).trans hkept
    · exact (hother j hji).trans hkept
  | @acquire k' free =>
    by_cases hk : k = k'
    · subst hk
      have hij : i = j := by simpa [Locks.acquire] using hj
      exact hij ▸ ha
    · have hkept := h j k (by simpa [Locks.acquire, hk] using hj)
      have hji : j ≠ i := by
        rintro rfl
        rw [hb] at hkept
        cases hkept
      exact (hother j hji).trans hkept
  | @release k' =>
    have hk : k ≠ k' := by
      rintro rfl
      simp [Locks.release] at hj
    have hkept := h j k (by simpa [Locks.release, hk] using hj)
    have hji : j ≠ i := by
      rintro rfl
      rw [hb] at hkept
      exact hk (Option.some.inj hkept).symm
    exact (hother j hji).trans hkept

end Locking
