import CheckinService.Lib.Interleaving

namespace Interleaving

universe u v w x y

variable {σ : Type u} {ι : Type v} {π : Type w} {α : Type x} {τ : Type y} [DecidableEq ι]

def commits (step : ι → σ → π → σ × π) (commit : π → Option α) :
    Config σ ι π → List ι → List (ι × α)
  | _, [] => []
  | c, i :: schedule =>
    (commit (c.locals i)).toList.map (Prod.mk i) ++ commits step commit (turn step c i) schedule

def Takes (view : σ → τ) (exec : τ → α → τ) (entry : Option α) (s s' : σ) : Prop :=
  view s' = Machine.run exec (view s) entry.toList

variable {step : ι → σ → π → σ × π} {commit : π → Option α} {J : Config σ ι π → Prop}
  {G : Config σ ι π → ι → Prop}

theorem run_commits (view : σ → τ) (exec : τ → α → τ) (keep : ∀ c i, J c → J (turn step c i))
    (takes : ∀ c i, J c → G c i →
      Takes view exec (commit (c.locals i)) c.shared (step i c.shared (c.locals i)).1)
    {c : Config σ ι π} (hJ : J c) {schedule : List ι}
    (hG : Machine.Guarded (turn step) G c schedule) :
    view (Machine.run (turn step) c schedule).shared =
      Machine.run exec (view c.shared) ((commits step commit c schedule).map Prod.snd) := by
  induction schedule generalizing c with
  | nil => rfl
  | cons i schedule ih =>
    have htakes := takes c i hJ hG.1
    have hentry : ((commit (c.locals i)).toList.map (Prod.mk i)).map Prod.snd =
        (commit (c.locals i)).toList := by
      rw [List.map_map]
      exact List.map_id' _
    rw [Machine.run, ih (keep c i hJ) hG.2, turn_shared, htakes, commits, List.map_append, hentry,
      Machine.run_append]

section

variable {past : π → Prop}

theorem past_turn (after : ∀ i s p, past p → past (step i s p).2) {c : Config σ ι π} {i : ι}
    (h : past (c.locals i)) (j : ι) : past ((turn step c j).locals i) := by
  by_cases hij : i = j
  · subst hij
    rw [turn_locals_self]
    exact after i c.shared _ h
  · rw [turn_locals_of_ne step c hij]
    exact h

theorem mem_commits_cons {c : Config σ ι π} {i j : ι} {schedule : List ι} :
    j ∈ (commits step commit c (i :: schedule)).map Prod.fst ↔
      (j = i ∧ commit (c.locals i) ≠ none) ∨
        j ∈ (commits step commit (turn step c i) schedule).map Prod.fst := by
  rw [commits, List.map_append, List.mem_append]
  apply or_congr_left
  cases commit (c.locals i) <;> simp

theorem not_mem_commits (after : ∀ i s p, past p → past (step i s p).2)
    (none_left : ∀ p, past p → commit p = none) {c : Config σ ι π} {i : ι} (h : past (c.locals i))
    (schedule : List ι) : i ∉ (commits step commit c schedule).map Prod.fst := by
  induction schedule generalizing c with
  | nil => exact List.not_mem_nil
  | cons j schedule ih =>
    rw [mem_commits_cons, not_or]
    refine ⟨?_, ih (past_turn after h j)⟩
    rintro ⟨rfl, hentry⟩
    exact hentry (none_left _ h)

theorem past_of_mem_commits (after : ∀ i s p, past p → past (step i s p).2)
    (once : ∀ i s p, commit p ≠ none → past (step i s p).2) {c : Config σ ι π} {i : ι}
    {schedule : List ι} (h : i ∈ (commits step commit c schedule).map Prod.fst) :
    past ((Machine.run (turn step) c schedule).locals i) := by
  induction schedule generalizing c with
  | nil => cases h
  | cons j schedule ih =>
    rw [Machine.run]
    rcases mem_commits_cons.mp h with ⟨rfl, hentry⟩ | hrest
    · have hpast : past ((turn step c i).locals i) := by
        rw [turn_locals_self]
        exact once i c.shared _ hentry
      exact Machine.run_invariant (I := fun d : Config σ ι π => past (d.locals i))
        (fun _ j hd => past_turn after hd j) hpast schedule
    · exact ih hrest

theorem commits_nodup (after : ∀ i s p, past p → past (step i s p).2)
    (none_left : ∀ p, past p → commit p = none)
    (once : ∀ i s p, commit p ≠ none → past (step i s p).2) (c : Config σ ι π)
    (schedule : List ι) : ((commits step commit c schedule).map Prod.fst).Nodup := by
  induction schedule generalizing c with
  | nil => exact List.nodup_nil
  | cons i schedule ih =>
    rw [commits]
    cases hentry : commit (c.locals i) with
    | none => exact ih (turn step c i)
    | some a =>
      have hpast : past ((turn step c i).locals i) := by
        rw [turn_locals_self]
        exact once i c.shared _ (by simp [hentry])
      exact List.nodup_cons.mpr ⟨not_mem_commits after none_left hpast schedule,
        ih (turn step c i)⟩

end

end Interleaving
