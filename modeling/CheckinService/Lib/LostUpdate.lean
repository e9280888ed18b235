import CheckinService.Lib.Interleaving
import Mathlib.Data.Set.Insert

/-! A flag that some processes set and others clear, on what they have read before.  Whoever has set
it is promised that it stays; a process that clears it breaks the promise, if the flag was set
behind its back. -/

namespace Interleaving

universe u v w x

variable {σ : Type u} {ι : Type v} {π : Type w} {κ : Type x}

inductive Role (κ : Type x) where
  | idle
  -- about to clear the flag, which it has found not set
  | clears (k : κ)
  -- about to promise the flag, which it has found set
  | finds (k : κ)
  | promised (k : κ)

inductive FlagMove (flags : Set κ) : Role κ → Set κ → Role κ → Prop where
  | idle : FlagMove flags .idle flags .idle
  | aim {k} (h : k ∉ flags) : FlagMove flags .idle flags (.clears k)
  | clear {k} : FlagMove flags (.clears k) (flags \ {k}) .idle
  | find {k} (h : k ∈ flags) : FlagMove flags .idle flags (.finds k)
  | confirm {k} : FlagMove flags (.finds k) flags (.promised k)
  | set {k} : FlagMove flags .idle (insert k flags) (.promised k)
  | rest {k} : FlagMove flags (.promised k) flags (.promised k)

def Promised (roles : ι → Role κ) (k : κ) : Prop := ∃ i, roles i = .promised k

def KeepsPromises (flags : Set κ) (roles : ι → Role κ) : Prop :=
  ∀ i k, roles i = .promised k → k ∈ flags

def ReadsFresh (flags : Set κ) : Role κ → Prop
  | .clears k => k ∉ flags
  | _ => True

structure Accounted (old flags : Set κ) (roles : ι → Role κ) : Prop where
  kept : old ⊆ flags
  source : ∀ k ∈ flags, k ∈ old ∨ Promised roles k
  clears : ∀ i k, roles i = .clears k → k ∉ old
  finds : ∀ i k, roles i = .finds k → k ∈ old ∨ Promised roles k

variable {old flags flags' : Set κ} {roles : ι → Role κ} {r' : Role κ} {i : ι}

theorem Accounted.start (flags : Set κ) (h : ∀ i, roles i = .idle) :
    Accounted flags flags roles where
  kept := subset_rfl
  source _ hk := Or.inl hk
  clears i k hi := by
    rw [h i] at hi
    cases hi
  finds i k hi := by
    rw [h i] at hi
    cases hi

section

variable [DecidableEq ι]

theorem Promised.update {k : κ} (hk : Promised roles k)
    (hmove : FlagMove flags (roles i) flags' r') : Promised (Function.update roles i r') k := by
  obtain ⟨j, hj⟩ := hk
  by_cases hji : j = i
  · subst hji
    rw [hj] at hmove
    cases hmove
    exact ⟨j, Function.update_self _ _ _⟩
  · exact ⟨j, by rw [Function.update_of_ne hji, hj]⟩

theorem Accounted.move (h : Accounted old flags roles)
    (hmove : FlagMove flags (roles i) flags' r') :
    Accounted old flags' (Function.update roles i r') := by
  have hpromised : ∀ k, k ∈ old ∨ Promised roles k →
      k ∈ old ∨ Promised (Function.update roles i r') k :=
    fun k hk => hk.imp_right fun hk => hk.update hmove
  have hself : Function.update roles i r' i = r' := Function.update_self _ _ _
  generalize hrole : roles i = r at hmove
  constructor
  · cases hmove with
    | clear =>
      intro k hk
      refine ⟨h.kept hk, ?_⟩
      rintro rfl
      exact h.clears i k hrole hk
    | set => exact h.kept.trans (Set.subset_insert _ _)
    | _ => exact h.kept
  · intro k hk
    cases hmove with
    | clear => exact hpromised k (h.source k hk.1)
    | set =>
      rcases hk with rfl | hk
      · exact Or.inr ⟨i, hself⟩
      · exact hpromised k (h.source k hk)
    | _ => exact hpromised k (h.source k hk)
  · intro j k hj
    by_cases hji : j = i
    · subst hji
      rw [hself] at hj
      subst hj
      cases hmove with
      | aim hfree => exact fun hold => hfree (h.kept hold)
    · rw [Function.update_of_ne hji] at hj
      exact h.clears j k hj
  · intro j k hj
    apply hpromised k
    by_cases hji : j = i
    · subst hji
      rw [hself] at hj
      subst hj
      cases hmove with
      | find hset => exact h.source k hset
    · rw [Function.update_of_ne hji] at hj
      exact h.finds j k hj

theorem Accounted.keepsPromises_iff (h : Accounted old flags roles)
    (hkeeps : KeepsPromises flags roles) (hmove : FlagMove flags (roles i) flags' r') :
    KeepsPromises flags' (Function.update roles i r') ↔ ReadsFresh flags (roles i) := by
  have hself : Function.update roles i r' i = r' := Function.update_self _ _ _
  have hothers : ∀ j k, j ≠ i → Function.update roles i r' j = .promised k → k ∈ flags := by
    intro j k hji hj
    rw [Function.update_of_ne hji] at hj
    exact hkeeps j k hj
  generalize hrole : roles i = r at hmove
  constructor
  · intro hafter
    cases hmove with
    | @clear k =>
      intro hk
      -- a flag set behind its back is somebody's promise, which it breaks
      rcases h.source k hk with hold | ⟨j, hj⟩
      · exact h.clears i k hrole hold
      · have hji : j ≠ i := by
          rintro rfl
          cases hrole.symm.trans hj
        exact (hafter j k (by rw [Function.update_of_ne hji, hj])).2 rfl
    | _ => trivial
  · intro hfresh j k hj
    by_cases hji : j = i
    · subst hji
      rw [hself] at hj
      subst hj
      cases hmove with
      | confirm =>
        rcases h.finds j k hrole with hold | ⟨m, hm⟩
        · exact h.kept hold
        · exact hkeeps m k hm
      | set => exact Set.mem_insert k flags
      | rest => exact hkeeps j k hrole
    · have hk := hothers j k hji hj
      cases hmove with
      | clear =>
        refine ⟨hk, ?_⟩
        rintro rfl
        exact hfresh hk
      | set => exact Set.mem_insert_of_mem _ hk
      | _ => exact hk

end

section

variable [DecidableEq ι] (step : ι → σ → π → σ × π) (flags : σ → Set κ) (role : π → Role κ)

/-- Whatever the schedule: the promises are kept all along exactly if nobody clears a flag that has
been set since they read it. -/
theorem keepsPromises_iff_readsFresh {J : Config σ ι π → Prop}
    (keep : ∀ c i, J c → J (turn step c i))
    (moves : ∀ c i, J c → FlagMove (flags c.shared) (role (c.locals i))
      (flags (step i c.shared (c.locals i)).1) (role (step i c.shared (c.locals i)).2))
    {c : Config σ ι π} (hJ : J c) (hstart : ∀ i, role (c.locals i) = .idle) (schedule : List ι) :
    Machine.Always (turn step) (fun c => KeepsPromises (flags c.shared) fun i => role (c.locals i))
        c schedule ↔
      Machine.Guarded (turn step) (fun c i => ReadsFresh (flags c.shared) (role (c.locals i)))
        c schedule := by
  refine Machine.always_iff_guarded
    (J := fun d => J d ∧ Accounted (flags c.shared) (flags d.shared) fun i => role (d.locals i))
    ?_ ?_ ⟨hJ, .start _ hstart⟩ ?_
  · rintro d i ⟨hd, h⟩
    refine ⟨keep d i hd, ?_⟩
    rw [turn_map]
    exact h.move (moves d i hd)
  · rintro d i ⟨hd, h⟩ hkeeps
    rw [turn_map]
    exact h.keepsPromises_iff hkeeps (moves d i hd)
  · intro i k hi
    cases (hstart i).symm.trans hi

end

end Interleaving
