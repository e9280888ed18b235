import Mathlib.Data.List.Basic
import Mathlib.Data.List.Count
import Mathlib.Data.List.Pairwise

/-! Database tables with a primary key and UNIQUE constraints.  A table carries the
proof that its rows respect them, so no operation can build one that does not: an INSERT
that would break a constraint is `none`, and an UPDATE leaves the indexed columns alone.
AUTO_INCREMENT gives one past the largest id in use. -/

namespace Relational

universe u

/-- `keys r` are the non-null values `r` occupies in the UNIQUE indexes of its table. -/
class Row (ρ : Type u) (κ : outParam Type) where
  id : ρ → Int
  keys : ρ → List κ

variable {ρ : Type u} {κ : Type} [Row ρ κ]

def Clash (r s : ρ) : Prop := Row.id r = Row.id s ∨ ∃ k ∈ Row.keys r, k ∈ Row.keys s

instance [DecidableEq κ] (r s : ρ) : Decidable (Clash r s) :=
  inferInstanceAs (Decidable (Row.id r = Row.id s ∨ ∃ k ∈ Row.keys r, k ∈ Row.keys s))

theorem Clash.symm {r s : ρ} (h : Clash r s) : Clash s r := by
  rcases h with h | ⟨k, hr, hs⟩
  · exact Or.inl h.symm
  · exact Or.inr ⟨k, hs, hr⟩

instance : Std.Symm fun r s : ρ => ¬ Clash r s where
  symm _ _ h hsr := h hsr.symm

structure Table (ρ : Type u) {κ : Type} [Row ρ κ] where
  rows : List ρ
  unique : rows.Pairwise fun r s => ¬ Clash r s

namespace Table

@[ext] theorem ext {t t' : Table ρ} (h : t.rows = t'.rows) : t = t' := by
  cases t
  cases t'
  simp only at h
  subst h
  rfl

def empty : Table ρ := ⟨[], List.Pairwise.nil⟩

def single (r : ρ) : Table ρ := ⟨[r], List.pairwise_singleton _ _⟩

@[simp] theorem empty_rows : (empty : Table ρ).rows = [] := rfl

def first (t : Table ρ) (p : ρ → Bool) : Option ρ := t.rows.find? p

def byId (t : Table ρ) (i : Int) : Option ρ := t.first fun r => Row.id r = i

def nextId (t : Table ρ) : Int := t.rows.foldr (fun r m => max (Row.id r) m) 0 + 1

def insert? [DecidableEq κ] (t : Table ρ) (r : ρ) : Option (Table ρ) :=
  if h : ∀ s ∈ t.rows, ¬ Clash s r then
    some ⟨t.rows ++ [r], by
      rw [List.pairwise_append]
      refine ⟨t.unique, List.pairwise_singleton _ _, ?_⟩
      intro s hs r' hr'
      rw [List.mem_singleton.mp hr']
      exact h s hs⟩
  else none

def KeepsKeys (f : ρ → ρ) : Prop := ∀ r, Row.id (f r) = Row.id r ∧ Row.keys (f r) = Row.keys r

theorem clash_congr {f : ρ → ρ} (hf : KeepsKeys f) {r s r' s' : ρ}
    (hr : r' = r ∨ r' = f r) (hs : s' = s ∨ s' = f s) : Clash r' s' ↔ Clash r s := by
  rcases hr with rfl | rfl <;> rcases hs with rfl | rfl <;> simp [Clash, (hf _).1, (hf _).2]

theorem unique_map (t : Table ρ) {f : ρ → ρ} (hf : KeepsKeys f) (p : ρ → Prop)
    [DecidablePred p] :
    (t.rows.map fun r => if p r then f r else r).Pairwise fun r s => ¬ Clash r s := by
  rw [List.pairwise_map]
  refine t.unique.imp ?_
  intro r s h
  rw [clash_congr hf (r := r) (s := s)]
  · exact h
  · split
    · exact Or.inr rfl
    · exact Or.inl rfl
  · split
    · exact Or.inr rfl
    · exact Or.inl rfl

def update (t : Table ρ) (i : Int) (f : ρ → ρ) (hf : KeepsKeys f) : Table ρ where
  rows := t.rows.map fun r => if Row.id r = i then f r else r
  unique := t.unique_map hf _

def updateWhere (t : Table ρ) (p : ρ → Bool) (f : ρ → ρ) (hf : KeepsKeys f) : Table ρ where
  rows := t.rows.map fun r => if p r then f r else r
  unique := t.unique_map hf _

def filter (t : Table ρ) (p : ρ → Bool) : Table ρ where
  rows := t.rows.filter p
  unique := t.unique.filter p

@[simp] theorem mem_filter {t : Table ρ} {p : ρ → Bool} {r : ρ} :
    r ∈ (t.filter p).rows ↔ r ∈ t.rows ∧ p r = true := List.mem_filter

def relax (t : Table ρ) (f : ρ → ρ) (hf : ∀ r s, Clash (f r) (f s) → Clash r s) : Table ρ where
  rows := t.rows.map f
  unique := by
    rw [List.pairwise_map]
    exact t.unique.imp fun hrs hclash => hrs (hf _ _ hclash)

def remove (t : Table ρ) (i : Int) : Table ρ where
  rows := t.rows.filter fun r => Row.id r ≠ i
  unique := t.unique.filter _

@[simp] theorem mem_remove {t : Table ρ} {i : Int} {r : ρ} :
    r ∈ (t.remove i).rows ↔ r ∈ t.rows ∧ Row.id r ≠ i := by
  simp [remove]

@[simp] theorem update_rows (t : Table ρ) (i : Int) (f : ρ → ρ) (hf : KeepsKeys f) :
    (t.update i f hf).rows = t.rows.map fun r => if Row.id r = i then f r else r := rfl

theorem eq_of_clash (t : Table ρ) {r s : ρ} (hr : r ∈ t.rows) (hs : s ∈ t.rows)
    (h : Clash r s) : r = s := by
  by_contra hne
  exact t.unique.forall hr hs hne h

theorem eq_of_id (t : Table ρ) {r s : ρ} (hr : r ∈ t.rows) (hs : s ∈ t.rows)
    (h : Row.id r = Row.id s) : r = s := t.eq_of_clash hr hs (Or.inl h)

theorem eq_of_key (t : Table ρ) {r s : ρ} {k : κ} (hr : r ∈ t.rows) (hs : s ∈ t.rows)
    (hkr : k ∈ Row.keys r) (hks : k ∈ Row.keys s) : r = s :=
  t.eq_of_clash hr hs (Or.inr ⟨k, hkr, hks⟩)

theorem insert?_eq_some [DecidableEq κ] {t t' : Table ρ} {r : ρ} :
    t.insert? r = some t' ↔ (∀ s ∈ t.rows, ¬ Clash s r) ∧ t'.rows = t.rows ++ [r] := by
  unfold insert?
  split
  · rename_i h
    rw [Option.some.injEq]
    constructor
    · rintro rfl
      exact ⟨h, rfl⟩
    · rintro ⟨-, hrows⟩
      exact Table.ext hrows.symm
  · rename_i h
    simp [h]

theorem insert?_eq_none [DecidableEq κ] {t : Table ρ} {r : ρ} :
    t.insert? r = none ↔ ∃ s ∈ t.rows, Clash s r := by
  unfold insert?
  split
  · rename_i h
    simpa using h
  · rename_i h
    simpa using h

theorem first_eq_some {t : Table ρ} {p : ρ → Bool} {r : ρ} (h : t.first p = some r) :
    r ∈ t.rows ∧ p r = true := ⟨List.mem_of_find?_eq_some h, List.find?_some h⟩

theorem first_eq_none {t : Table ρ} {p : ρ → Bool} :
    t.first p = none ↔ ∀ r ∈ t.rows, p r = false := by
  simp [first, List.find?_eq_none]

theorem first_isSome {t : Table ρ} {p : ρ → Bool} :
    (t.first p).isSome = true ↔ ∃ r ∈ t.rows, p r = true := by
  simp [first, List.find?_isSome]

theorem first_eq_some_iff {t : Table ρ} {p : ρ → Bool} {r : ρ}
    (hu : ∀ s, p r = true → p s = true → Clash s r) :
    t.first p = some r ↔ r ∈ t.rows ∧ p r = true := by
  constructor
  · exact first_eq_some
  · rintro ⟨hr, hp⟩
    cases h : t.first p with
    | none => simp [first_eq_none.mp h r hr] at hp
    | some s =>
      obtain ⟨hs, hps⟩ := first_eq_some h
      rw [t.eq_of_clash hs hr (hu s hp hps)]

theorem countP_le_one (t : Table ρ) {p : ρ → Bool}
    (hu : ∀ r s, p r = true → p s = true → Clash s r) : t.rows.countP p ≤ 1 := by
  rw [List.countP_eq_length_filter]
  have hclash := t.unique.filter p
  cases hfound : t.rows.filter p with
  | nil => exact Nat.zero_le 1
  | cons r found =>
    cases found with
    | nil => exact Nat.le_refl 1
    | cons s found =>
      have hp : ∀ x ∈ r :: s :: found, p x = true := by
        intro x hx
        rw [← hfound] at hx
        exact (List.mem_filter.mp hx).2
      rw [hfound] at hclash
      exact absurd (hu s r (hp s (by simp)) (hp r (by simp)))
        (List.rel_of_pairwise_cons hclash (by simp))

theorem first_id_eq_some {t : Table ρ} {i : Int} {q : ρ → Bool} {r : ρ} :
    (t.first fun s => Row.id s = i && q s) = some r ↔
      r ∈ t.rows ∧ Row.id r = i ∧ q r = true := by
  rw [first_eq_some_iff]
  · simp
  · intro s hr hs
    simp only [Bool.and_eq_true, decide_eq_true_eq] at hr hs
    exact Or.inl (hs.1.trans hr.1.symm)

theorem first_id_and_eq_some {t : Table ρ} {i : Int} {Q : ρ → Prop} [DecidablePred Q] {r : ρ} :
    (t.first fun s => Row.id s = i && Q s) = some r ↔ r ∈ t.rows ∧ Row.id r = i ∧ Q r := by
  rw [first_id_eq_some, decide_eq_true_eq]

theorem byId_eq_some {t : Table ρ} {i : Int} {r : ρ} :
    t.byId i = some r ↔ r ∈ t.rows ∧ Row.id r = i := by
  rw [byId, first_eq_some_iff]
  · simp
  · intro s hr hs
    simp only [decide_eq_true_eq] at hr hs
    exact Or.inl (hs.trans hr.symm)

theorem id_lt_nextId {t : Table ρ} {r : ρ} (hr : r ∈ t.rows) : Row.id r < t.nextId := by
  unfold nextId
  generalize t.rows = rows at hr
  induction rows with
  | nil => cases hr
  | cons s rows ih =>
    rw [List.foldr_cons]
    rcases List.mem_cons.mp hr with rfl | hr
    · omega
    · have := ih hr
      omega

theorem insert?_nextId_eq_none [DecidableEq κ] {t : Table ρ} {r : ρ} (h : Row.id r = t.nextId) :
    t.insert? r = none ↔ ∃ s ∈ t.rows, ∃ k ∈ Row.keys s, k ∈ Row.keys r := by
  rw [insert?_eq_none]
  constructor
  · rintro ⟨s, hs, hid | hkeys⟩
    · have := id_lt_nextId hs
      omega
    · exact ⟨s, hs, hkeys⟩
  · rintro ⟨s, hs, hkeys⟩
    exact ⟨s, hs, Or.inr hkeys⟩

theorem update_congr {t : Table ρ} {i : Int} {f g : ρ → ρ} (hf : KeepsKeys f) (hg : KeepsKeys g)
    (h : ∀ r ∈ t.rows, Row.id r = i → f r = g r) : t.update i f hf = t.update i g hg := by
  ext1
  rw [update_rows, update_rows]
  apply List.map_congr_left
  intro r hr
  split
  · rename_i hid
    exact h r hr hid
  · rfl

theorem update_eq_self {t : Table ρ} {i : Int} {f : ρ → ρ} (hf : KeepsKeys f)
    (h : ∀ r ∈ t.rows, Row.id r = i → f r = r) : t.update i f hf = t := by
  ext1
  rw [update_rows, List.map_congr_left (g := id), List.map_id]
  intro r hr
  split
  · rename_i hid
    exact h r hr hid
  · rfl

theorem update_rows_eq {t : Table ρ} {i : Int} {f g : ρ → ρ} (hf : KeepsKeys f) {r : ρ}
    (hr : r ∈ t.rows) (hi : Row.id r = i) {p : ρ → Prop} [DecidablePred p] (hp : p r)
    (hu : ∀ s ∈ t.rows, p s → s = r) (hg : f r = g r) :
    (t.update i f hf).rows = t.rows.map fun s => if p s then g s else s := by
  rw [update_rows]
  apply List.map_congr_left
  intro s hs
  by_cases hsi : Row.id s = i
  · rw [t.eq_of_id hs hr (hsi.trans hi.symm), if_pos hi, if_pos hp, hg]
  · have hsp : ¬ p s := by
      intro h
      rw [hu s hs h] at hsi
      exact hsi hi
    rw [if_neg hsi, if_neg hsp]

theorem countP_update {t : Table ρ} {i : Int} {f : ρ → ρ} (hf : KeepsKeys f) (q : ρ → Bool)
    {r : ρ} (hr : r ∈ t.rows) (hi : Row.id r = i) :
    (t.update i f hf).rows.countP q + (q r).toNat = t.rows.countP q + (q (f r)).toNat := by
  have hu := t.unique
  rw [update_rows]
  generalize t.rows = rows at hr hu
  induction rows with
  | nil => cases hr
  | cons s rows ih =>
    obtain ⟨hs, hu⟩ := List.pairwise_cons.mp hu
    rw [List.map_cons, List.countP_cons, List.countP_cons]
    rcases List.mem_cons.mp hr with rfl | hr
    · -- the other rows have other ids, so the map leaves them alone
      have hrest : rows.map (fun x => if Row.id x = i then f x else x) = rows := by
        refine (List.map_congr_left ?_).trans (List.map_id rows)
        intro x hx
        exact if_neg fun hxi => hs x hx (Or.inl (hi.trans hxi.symm))
      rw [hrest, if_pos hi]
      cases q r <;> cases q (f r) <;> simp
    · have hne : Row.id s ≠ i := by
        intro h
        exact hs r hr (Or.inl (h.trans hi.symm))
      rw [if_neg hne]
      have := ih hr hu
      omega

theorem relax_nextId {t : Table ρ} {f : ρ → ρ} (hf : ∀ r s, Clash (f r) (f s) → Clash r s)
    (hid : ∀ r, Row.id (f r) = Row.id r) : (t.relax f hf).nextId = t.nextId := by
  simp only [nextId, relax, List.foldr_map, hid]

theorem relax_first {t : Table ρ} {f : ρ → ρ} {p : ρ → Bool}
    (hf : ∀ r s, Clash (f r) (f s) → Clash r s) {q : ρ → Bool} (hpq : ∀ r, p (f r) = q r) :
    (t.relax f hf).first p = (t.first q).map f := by
  have hcomp : p ∘ f = q := funext hpq
  rw [first, relax, List.find?_map, hcomp]
  rfl

theorem relax_insert? [DecidableEq κ] {t : Table ρ} {f : ρ → ρ}
    (hf : ∀ r s, Clash (f r) (f s) → Clash r s) (hkeeps : KeepsKeys f) (r : ρ) :
    (t.relax f hf).insert? (f r) = (t.insert? r).map fun t' => t'.relax f hf := by
  have hclash : ∀ s, Clash (f s) (f r) ↔ Clash s r := fun s =>
    clash_congr hkeeps (Or.inr rfl) (Or.inr rfl)
  cases hinsert : t.insert? r with
  | none =>
    obtain ⟨s, hs, hrs⟩ := insert?_eq_none.mp hinsert
    exact insert?_eq_none.mpr ⟨f s, List.mem_map_of_mem hs, (hclash s).mpr hrs⟩
  | some t' =>
    obtain ⟨hfree, hrows⟩ := insert?_eq_some.mp hinsert
    refine insert?_eq_some.mpr ⟨?_, ?_⟩
    · intro s' hs' hrs
      obtain ⟨s, hs, rfl⟩ := List.mem_map.mp hs'
      exact hfree s hs ((hclash s).mp hrs)
    · simp [relax, hrows]

theorem nodup (t : Table ρ) : t.rows.Nodup := by
  apply t.unique.imp
  rintro r _ hclash rfl
  exact hclash (Or.inl rfl)

theorem filter_perm {t t' : Table ρ} {p : ρ → Bool}
    (h : ∀ r, p r = true → (r ∈ t.rows ↔ r ∈ t'.rows)) :
    (t.rows.filter p).Perm (t'.rows.filter p) := by
  rw [List.perm_ext_iff_of_nodup (t.nodup.filter p) (t'.nodup.filter p)]
  intro r
  rw [List.mem_filter, List.mem_filter]
  exact ⟨fun hr => ⟨(h r hr.2).mp hr.1, hr.2⟩, fun hr => ⟨(h r hr.2).mpr hr.1, hr.2⟩⟩

end Table

end Relational
