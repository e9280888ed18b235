namespace Except

universe u v

variable {ε : Type u} {α β : Type v}

theorem bind_eq_ok {x : Except ε α} {f : α → Except ε β} {b : β} :
    (x >>= f) = .ok b ↔ ∃ a, x = .ok a ∧ f a = .ok b := by
  cases x with
  | error e => simp [bind, Except.bind]
  | ok a => simp [bind, Except.bind]

theorem bind_eq_error {x : Except ε α} {f : α → Except ε β} {e : ε} :
    (x >>= f) = .error e ↔ x = .error e ∨ ∃ a, x = .ok a ∧ f a = .error e := by
  cases x with
  | error e' => simp [bind, Except.bind]
  | ok a => simp [bind, Except.bind]

/-- What every turn of a loop that goes through keeps, the loop keeps. -/
theorem foldlM_invariant {f : β → α → Except ε β} {P : β → Prop}
    (step : ∀ b a b', P b → f b a = .ok b' → P b') {as : List α} {b b' : β} (hb : P b)
    (h : as.foldlM f b = .ok b') : P b' := by
  induction as generalizing b with
  | nil =>
    cases h
    exact hb
  | cons a as ih =>
    rw [List.foldlM_cons] at h
    obtain ⟨b₁, hturn, hrest⟩ := bind_eq_ok.mp h
    exact ih (step b a b₁ hb hturn) hrest

theorem foldlM_prefix {f : β → α → Except ε β} {P : List α → β → Prop}
    (step : ∀ done a b, P done b → ∃ b', f b a = .ok b' ∧ P (done ++ [a]) b')
    (as done : List α) {b : β} (hb : P done b) :
    ∃ b', as.foldlM f b = .ok b' ∧ P (done ++ as) b' := by
  induction as generalizing done b with
  | nil =>
    rw [List.append_nil]
    exact ⟨b, rfl, hb⟩
  | cons a as ih =>
    obtain ⟨b₁, hturn, hb₁⟩ := step done a b hb
    obtain ⟨b₂, hloop, hb₂⟩ := ih _ hb₁
    rw [List.append_assoc] at hb₂
    refine ⟨b₂, ?_, hb₂⟩
    rw [List.foldlM_cons, hturn]
    exact hloop

theorem foldlM_map {f : β → α → Except ε β} {g : β → β}
    (step : ∀ b a, f (g b) a = (f b a).map g) (as : List α) (b : β) :
    as.foldlM f (g b) = (as.foldlM f b).map g := by
  induction as generalizing b with
  | nil => rfl
  | cons a as ih =>
    rw [List.foldlM_cons, List.foldlM_cons, step]
    cases f b a with
    | error e => rfl
    | ok b₁ => exact ih b₁

theorem bind_congr {x : Except ε α} {f g : α → Except ε β} (h : ∀ a, x = .ok a → f a = g a) :
    (x >>= f) = x >>= g := by
  cases x with
  | error e => rfl
  | ok a => exact h a rfl

theorem bind_of_ok {x : Except ε α} {f : α → Except ε β} {a : α} (h : x = .ok a) :
    (x >>= f) = f a := by
  rw [h]
  rfl

inductive Rel (R : α → β → Prop) : Except ε α → Except ε β → Prop where
  | error (e : ε) : Rel R (.error e) (.error e)
  | ok {a b} (h : R a b) : Rel R (.ok a) (.ok b)

theorem Rel.bind {R : β → β → Prop} (x : Except ε α) {f g : α → Except ε β}
    (h : ∀ a, x = .ok a → Rel R (f a) (g a)) : Rel R (x >>= f) (x >>= g) := by
  cases x with
  | error e => exact .error e
  | ok a => exact h a rfl

end Except
