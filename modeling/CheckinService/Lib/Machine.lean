import Mathlib.Data.List.Basic

namespace Machine

universe u v

variable {σ : Type u} {α : Type v}

def run (next : σ → α → σ) : σ → List α → σ
  | s, [] => s
  | s, a :: as => run next (next s a) as

def Always (next : σ → α → σ) (I : σ → Prop) : σ → List α → Prop
  | s, [] => I s
  | s, a :: as => I s ∧ Always next I (next s a) as

def Guarded (next : σ → α → σ) (G : σ → α → Prop) : σ → List α → Prop
  | _, [] => True
  | s, a :: as => G s a ∧ Guarded next G (next s a) as

instance Guarded.decidable (next : σ → α → σ) (G : σ → α → Prop) [∀ s a, Decidable (G s a)] :
    ∀ (s : σ) (as : List α), Decidable (Guarded next G s as)
  | _, [] => .isTrue trivial
  | s, a :: as =>
    have := Guarded.decidable next G (next s a) as
    inferInstanceAs (Decidable (G s a ∧ Guarded next G (next s a) as))

variable {next : σ → α → σ} {I J : σ → Prop} {G : σ → α → Prop}

theorem run_append (s : σ) (as bs : List α) :
    run next s (as ++ bs) = run next (run next s as) bs := by
  induction as generalizing s with
  | nil => rfl
  | cons a as ih => exact ih (next s a)

theorem run_invariant (step : ∀ s a, I s → I (next s a)) {s : σ} (hs : I s) (as : List α) :
    I (run next s as) := by
  induction as generalizing s with
  | nil => exact hs
  | cons a as ih => exact ih (step s a hs)

theorem always_invariant (step : ∀ s a, I s → I (next s a)) {s : σ} (hs : I s) (as : List α) :
    Always next I s as := by
  induction as generalizing s with
  | nil => exact hs
  | cons a as ih => exact ⟨hs, ih (step s a hs)⟩

theorem run_rel {R : σ → σ → Prop} (refl : ∀ s, R s s) (trans : ∀ {s t u}, R s t → R t u → R s u)
    {as : List α} (step : ∀ s, ∀ a ∈ as, R s (next s a)) (s : σ) : R s (run next s as) := by
  induction as generalizing s with
  | nil => exact refl s
  | cons a as ih =>
    have hrest : ∀ s, R s (run next s as) :=
      ih fun s b hb => step s b (List.mem_cons_of_mem a hb)
    exact trans (step s a List.mem_cons_self) (hrest (next s a))

theorem guarded_of_rest {K : σ → List α → Prop}
    (keep : ∀ s a as, K s (a :: as) → K (next s a) as) (holds : ∀ s a as, K s (a :: as) → G s a)
    {s : σ} {as : List α} (hs : K s as) : Guarded next G s as := by
  induction as generalizing s with
  | nil => trivial
  | cons a as ih => exact ⟨holds s a as hs, ih (keep s a as hs)⟩

theorem always_of_rest {K : σ → List α → Prop}
    (keep : ∀ s a as, K s (a :: as) → K (next s a) as) (holds : ∀ s as, K s as → I s)
    {s : σ} {as : List α} (hs : K s as) : Always next I s as := by
  induction as generalizing s with
  | nil => exact holds s [] hs
  | cons a as ih => exact ⟨holds s (a :: as) hs, ih (keep s a as hs)⟩

theorem guarded_invariant (step : ∀ s a, I s → I (next s a)) (holds : ∀ s a, I s → G s a)
    {s : σ} (hs : I s) (as : List α) : Guarded next G s as :=
  guarded_of_rest (K := fun s _ => I s) (fun s a _ => step s a) (fun s a _ => holds s a) hs

theorem Always.here {s : σ} {as : List α} (h : Always next I s as) : I s := by
  cases as with
  | nil => exact h
  | cons a as => exact h.1

theorem Always.run {s : σ} {as : List α} (h : Always next I s as) :
    I (Machine.run next s as) := by
  induction as generalizing s with
  | nil => exact h
  | cons a as ih => exact ih h.2

theorem Always.imp (h : ∀ s, I s → J s) {s : σ} {as : List α} (hI : Always next I s as) :
    Always next J s as := by
  induction as generalizing s with
  | nil => exact h s hI
  | cons a as ih => exact ⟨h s hI.1, ih hI.2⟩

theorem Guarded.imp {G' : σ → α → Prop} (h : ∀ s a, G s a → G' s a) {s : σ} {as : List α}
    (hG : Guarded next G s as) : Guarded next G' s as := by
  induction as generalizing s with
  | nil => trivial
  | cons a as ih => exact ⟨h s a hG.1, ih hG.2⟩

/-- The run rule: a property that every guarded step keeps holds all along a guarded run.
`K` collects the facts that hold whether or not the guard does. -/
theorem always_of_guarded_rest {K : σ → List α → Prop}
    (keep : ∀ s a as, K s (a :: as) → K (next s a) as)
    (step : ∀ s a as, K s (a :: as) → I s → G s a → I (next s a)) {s : σ} {as : List α}
    (hK : K s as) (hI : I s) (hG : Guarded next G s as) : Always next I s as := by
  induction as generalizing s with
  | nil => exact hI
  | cons a as ih => exact ⟨hI, ih (keep s a as hK) (step s a as hK hI hG.1) hG.2⟩

/-- When the guard is exactly what one step needs to keep `I`, it is exactly what a
run needs. -/
theorem always_iff_guarded_rest {K : σ → List α → Prop}
    (keep : ∀ s a as, K s (a :: as) → K (next s a) as)
    (exact_step : ∀ s a as, K s (a :: as) → I s → (I (next s a) ↔ G s a)) {s : σ} {as : List α}
    (hK : K s as) (hI : I s) : Always next I s as ↔ Guarded next G s as := by
  constructor
  · intro h
    induction as generalizing s with
    | nil => trivial
    | cons a as ih =>
      have hnext : I (next s a) := h.2.here
      exact ⟨(exact_step s a as hK hI).mp hnext, ih (keep s a as hK) hnext h.2⟩
  · exact always_of_guarded_rest keep (fun s a as hK hI hG => (exact_step s a as hK hI).mpr hG)
      hK hI

theorem always_of_guarded (keep : ∀ s a, J s → J (next s a))
    (step : ∀ s a, J s → I s → G s a → I (next s a)) {s : σ} {as : List α}
    (hJ : J s) (hI : I s) (hG : Guarded next G s as) : Always next I s as :=
  always_of_guarded_rest (K := fun s _ => J s) (fun s a _ => keep s a) (fun s a _ => step s a)
    hJ hI hG

theorem always_iff_guarded (keep : ∀ s a, J s → J (next s a))
    (exact_step : ∀ s a, J s → I s → (I (next s a) ↔ G s a)) {s : σ} {as : List α}
    (hJ : J s) (hI : I s) : Always next I s as ↔ Guarded next G s as :=
  always_iff_guarded_rest (K := fun s _ => J s) (fun s a _ => keep s a)
    (fun s a _ => exact_step s a) hJ hI

theorem always_iff_guarded_of_step (exact_step : ∀ s a, I s → (I (next s a) ↔ G s a)) {s : σ}
    {as : List α} (hI : I s) : Always next I s as ↔ Guarded next G s as :=
  always_iff_guarded (J := fun _ => True) (fun _ _ h => h) (fun s a _ => exact_step s a) trivial hI

/-- The rule for what is asked of every step, `P`, where `I` keeps the account of what earlier
steps have let in. -/
theorem guarded_run_iff_guarded {P : σ → α → Prop} (keep : ∀ s a, J s → J (next s a))
    (exact_step : ∀ s a, J s → (P s a ∧ I (next s a) ↔ I s ∧ G s a)) {s : σ} {as : List α}
    (hJ : J s) : Guarded next P s as ∧ I (run next s as) ↔ I s ∧ Guarded next G s as := by
  induction as generalizing s with
  | nil => exact and_comm
  | cons a as ih =>
    calc
      (P s a ∧ Guarded next P (next s a) as) ∧ I (run next (next s a) as) ↔
          P s a ∧ Guarded next P (next s a) as ∧ I (run next (next s a) as) := and_assoc
      _ ↔ P s a ∧ I (next s a) ∧ Guarded next G (next s a) as := by rw [ih (keep s a hJ)]
      _ ↔ (P s a ∧ I (next s a)) ∧ Guarded next G (next s a) as := and_assoc.symm
      _ ↔ (I s ∧ G s a) ∧ Guarded next G (next s a) as := by rw [exact_step s a hJ]
      _ ↔ I s ∧ Guarded next G s (a :: as) := and_assoc

theorem run_iff_guarded (keep : ∀ s a, J s → J (next s a))
    (exact_step : ∀ s a, J s → (I (next s a) ↔ I s ∧ G s a)) {s : σ} {as : List α} (hJ : J s) :
    I (run next s as) ↔ I s ∧ Guarded next G s as := by
  have hnothing : Guarded next (fun _ _ => True) s as :=
    guarded_invariant (I := fun _ => True) (fun _ _ h => h) (fun _ _ h => h) trivial as
  rw [← guarded_run_iff_guarded (P := fun _ _ => True) keep _ hJ, and_iff_right hnothing]
  intro s a hJ
  rw [true_and, exact_step s a hJ]

def Occurs (A : List α → α → Prop) (as : List α) : Prop :=
  ∃ past a rest, as = past ++ a :: rest ∧ A past a

theorem Occurs.imp {A B : List α → α → Prop} (h : ∀ past a, A past a → B past a) {as : List α}
    (hA : Occurs A as) : Occurs B as := by
  obtain ⟨past, a, rest, has, ha⟩ := hA
  exact ⟨past, a, rest, has, h past a ha⟩

theorem occurs_of_change {P : σ → Prop} {s : σ} {as : List α} (hstart : ¬ P s)
    (hend : P (run next s as)) :
    Occurs (fun past a => ¬ P (run next s past) ∧ P (next (run next s past) a)) as := by
  induction as generalizing s with
  | nil => exact absurd hend hstart
  | cons a as ih =>
    by_cases ha : P (next s a)
    · exact ⟨[], a, as, rfl, hstart, ha⟩
    · obtain ⟨past, b, rest, has, hb⟩ := ih ha hend
      exact ⟨a :: past, b, rest, by rw [has, List.cons_append], hb⟩

end Machine
