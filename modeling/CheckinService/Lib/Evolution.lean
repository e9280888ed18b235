import CheckinService.Lib.Table

namespace Relational.Table

universe u

variable {ρ : Type u} {κ : Type} [Row ρ κ]

/-- Every row of `t` is still in `t'`, up to `R`; every other row of `t'` meets `N`. -/
structure Evolves (R : ρ → ρ → Prop) (N : ρ → Prop) (t t' : Table ρ) : Prop where
  keeps : ∀ r ∈ t.rows, ∃ r' ∈ t'.rows, R r r'
  brings : ∀ r' ∈ t'.rows, (∃ r ∈ t.rows, R r r') ∨ N r'

def Keeps (f : ρ → β) (r r' : ρ) : Prop := f r' = f r

theorem Keeps.refl (f : ρ → β) (r : ρ) : Keeps f r r := rfl

variable {R : ρ → ρ → Prop} {N P P' : ρ → Prop} {t t' : Table ρ}

theorem Evolves.refl (hR : ∀ r, R r r) (t : Table ρ) : Evolves R N t t where
  keeps r hr := ⟨r, hr, hR r⟩
  brings r hr := Or.inl ⟨r, hr, hR r⟩

theorem Evolves.of_append (hR : ∀ r, R r r) {new : List ρ} (hrows : t'.rows = t.rows ++ new)
    (hnew : ∀ r ∈ new, N r) : Evolves R N t t' := by
  constructor
  · intro r hr
    refine ⟨r, ?_, hR r⟩
    rw [hrows]
    exact List.mem_append_left _ hr
  · intro r hr
    rw [hrows] at hr
    rcases List.mem_append.mp hr with hr | hr
    · exact Or.inl ⟨r, hr, hR r⟩
    · exact Or.inr (hnew r hr)

theorem Evolves.of_map {f : ρ → ρ} (hrows : t'.rows = t.rows.map f)
    (hf : ∀ r ∈ t.rows, R r (f r)) : Evolves R N t t' := by
  constructor
  · intro r hr
    refine ⟨f r, ?_, hf r hr⟩
    rw [hrows]
    exact List.mem_map_of_mem hr
  · intro r' hr'
    rw [hrows] at hr'
    obtain ⟨r, hr, rfl⟩ := List.mem_map.mp hr'
    exact Or.inl ⟨r, hr, hf r hr⟩

/-- The invariant rule: what holds of the old rows, is kept by a rewriting and holds of the new
rows, holds of all rows. -/
theorem Evolves.all (h : Evolves R N t t') (old : ∀ r ∈ t.rows, P r)
    (keep : ∀ r r', R r r' → P r → P' r') (new : ∀ r, N r → P' r) : ∀ r ∈ t'.rows, P' r := by
  intro r' hr'
  rcases h.brings r' hr' with ⟨r, hr, hR⟩ | hN
  · exact keep r r' hR (old r hr)
  · exact new r' hN

theorem Evolves.trans {t'' : Table ρ} (htrans : ∀ {r s u}, R r s → R s u → R r u)
    (hN : ∀ {r r'}, N r → R r r' → N r') (h : Evolves R N t t') (h' : Evolves R N t' t'') :
    Evolves R N t t'' where
  keeps r hr := by
    obtain ⟨r', hr', hR⟩ := h.keeps r hr
    obtain ⟨r'', hr'', hR'⟩ := h'.keeps r' hr'
    exact ⟨r'', hr'', htrans hR hR'⟩
  brings r'' hr'' := by
    rcases h'.brings r'' hr'' with ⟨r', hr', hR'⟩ | hnew
    · rcases h.brings r' hr' with ⟨r, hr, hR⟩ | hnew
      · exact Or.inl ⟨r, hr, htrans hR hR'⟩
      · exact Or.inr (hN hnew hR')
    · exact Or.inr hnew

def SameBut (P : ρ → Prop) (t t' : Table ρ) : Prop := ∀ r, ¬ P r → (r ∈ t'.rows ↔ r ∈ t.rows)

theorem SameBut.refl (P : ρ → Prop) (t : Table ρ) : SameBut P t t := fun _ _ => Iff.rfl

theorem SameBut.trans {t'' : Table ρ} (h : SameBut P t t') (h' : SameBut P t' t'') :
    SameBut P t t'' :=
  fun r hr => (h' r hr).trans (h r hr)

theorem SameBut.of_append {new : List ρ} (hrows : t'.rows = t.rows ++ new)
    (hnew : ∀ r ∈ new, P r) : SameBut P t t' := by
  intro r hr
  rw [hrows, List.mem_append]
  exact or_iff_left fun hmem => hr (hnew r hmem)

theorem SameBut.of_map {f : ρ → ρ} (hrows : t'.rows = t.rows.map f)
    (hf : ∀ r ∈ t.rows, f r = r ∨ P r ∧ P (f r)) : SameBut P t t' := by
  intro r hr
  rw [hrows, List.mem_map]
  constructor
  · rintro ⟨r₀, hmem, rfl⟩
    rcases hf r₀ hmem with hsame | ⟨-, hP⟩
    · rw [hsame]
      exact hmem
    · exact absurd hP hr
  · intro hmem
    rcases hf r hmem with hsame | ⟨hP, -⟩
    · exact ⟨r, hmem, hsame⟩
    · exact absurd hP hr

end Relational.Table
