import CheckinService.Lib.Lockstep

/-! What a machine does not look at.  `view` hides a part of the state; a machine that is blind to
that part shows the same, and goes on to the same view, whatever stands there. -/

namespace Machine

universe u v w

variable {σ : Type u} {α : Type v} {β : Type w}

structure Blind (next : σ → α → σ) (out : σ → α → β) (view : σ → σ) : Prop where
  out : ∀ s a, out (view s) a = out s a
  next : ∀ s a, view (next (view s) a) = view (next s a)

inductive Twins (next : σ → α → σ) (T : σ → α → α → Prop) : σ → List α → List α → Prop where
  | nil {s} : Twins next T s [] []
  | cons {s a a' as as'} : T s a a' → Twins next T (next s a) as as' →
    Twins next T s (a :: as) (a' :: as')

variable {next : σ → α → σ} {out : σ → α → β} {view : σ → σ} {T : σ → α → α → Prop}

/-- Twin inputs which show the same in one state, and leave the same to see, do so over whole runs,
and in all states that look like it. -/
theorem Blind.twins (h : Blind next out view)
    (htwins : ∀ s a a', T s a a' → out s a' = out s a ∧ view (next s a') = view (next s a))
    {s s' : σ} {as as' : List α} (hview : view s' = view s) (hT : Twins next T s as as') :
    outputs next out s' as' = outputs next out s as ∧
      view (run next s' as') = view (run next s as) := by
  induction hT generalizing s' with
  | nil => exact ⟨rfl, hview⟩
  | @cons s a a' as as' htwin _ ih =>
    obtain ⟨hout, hnext⟩ := htwins s a a' htwin
    have houtput : out s' a' = out s a :=
      calc
        out s' a' = out (view s') a' := (h.out s' a').symm
        _ = out s a' := by rw [hview, h.out s a']
        _ = out s a := hout
    have hseen : view (next s' a') = view (next s a) :=
      calc
        view (next s' a') = view (next (view s') a') := (h.next s' a').symm
        _ = view (next s a') := by rw [hview, h.next s a']
        _ = view (next s a) := hnext
    obtain ⟨houts, hrun⟩ := ih hseen
    refine ⟨?_, hrun⟩
    rw [outputs, outputs, houtput, houts]

theorem Blind.id (next : σ → α → σ) (out : σ → α → β) : Blind next out fun s => s :=
  ⟨fun _ _ => rfl, fun _ _ => rfl⟩

end Machine
