import CheckinService.Lib.Table
import Mathlib.Logic.Function.Basic

/-! A table that several transactions insert into.  A row that is not committed yet holds its
UNIQUE keys already, and only its writer sees it. -/

namespace Relational

universe u v

/-- `writer` tells who has inserted the row with an id, and not committed it. -/
structure Store (ρ : Type u) (ι : Type v) {κ : Type} [Row ρ κ] where
  table : Table ρ
  writer : Int → Option ι

/-- An INSERT goes through, or its key is taken, or it waits to see what becomes of a row. -/
inductive Insertion (α : Type u) where
  | stored (s : α)
  | refused
  | waits

namespace Store

variable {ρ : Type u} {ι : Type v} {κ : Type} [Row ρ κ] [DecidableEq ι]

def committed (s : Store ρ ι) : Table ρ := s.table.filter fun r => (s.writer (Row.id r)).isNone

def own (s : Store ρ ι) (i : ι) : Table ρ := s.table.filter fun r => s.writer (Row.id r) = some i

def insert [DecidableEq κ] (s : Store ρ ι) (i : ι) (r : ρ) : Insertion (Store ρ ι) :=
  match s.table.insert? r with
  | some table => .stored ⟨table, Function.update s.writer (Row.id r) (some i)⟩
  | none =>
    if ∃ t ∈ s.table.rows, Clash t r ∧ (s.writer (Row.id t) = none ∨ s.writer (Row.id t) = some i)
    then .refused
    else .waits

def settle (s : Store ρ ι) (i : ι) (k : Int) : Option ι :=
  if s.writer k = some i then none else s.writer k

def commit (s : Store ρ ι) (i : ι) : Store ρ ι := ⟨s.table, s.settle i⟩

def rollback (s : Store ρ ι) (i : ι) : Store ρ ι :=
  ⟨s.table.filter fun r => s.writer (Row.id r) ≠ some i, s.settle i⟩

structure Keeps (j : ι) (s s' : Store ρ ι) : Prop where
  committed : ∀ r ∈ s.committed.rows, r ∈ s'.committed.rows
  own : ∀ r, r ∈ (s'.own j).rows ↔ r ∈ (s.own j).rows

variable {s s' : Store ρ ι} {i j : ι} {r t : ρ}

omit [DecidableEq ι] in
@[simp] theorem mem_committed :
    r ∈ s.committed.rows ↔ r ∈ s.table.rows ∧ s.writer (Row.id r) = none := by
  simp [committed]

@[simp] theorem mem_own :
    r ∈ (s.own i).rows ↔ r ∈ s.table.rows ∧ s.writer (Row.id r) = some i := by
  simp [own]

theorem Keeps.refl (j : ι) (s : Store ρ ι) : Keeps j s s := ⟨fun _ h => h, fun _ => Iff.rfl⟩

section

variable [DecidableEq κ]

theorem insert_of_insert? {table : Table ρ} (h : s.table.insert? r = some table) :
    s.insert i r = .stored ⟨table, Function.update s.writer (Row.id r) (some i)⟩ := by
  rw [insert, h]

theorem insert_eq_stored :
    s.insert i r = .stored s' ↔
      (∀ t ∈ s.table.rows, ¬ Clash t r) ∧ s'.table.rows = s.table.rows ++ [r] ∧
        s'.writer = Function.update s.writer (Row.id r) (some i) := by
  rw [insert]
  cases hinsert : s.table.insert? r with
  | some table =>
    obtain ⟨hfree, hrows⟩ := Table.insert?_eq_some.mp hinsert
    simp only [Insertion.stored.injEq]
    constructor
    · rintro rfl
      exact ⟨hfree, hrows, rfl⟩
    · rintro ⟨-, hrows', hwriter⟩
      obtain ⟨table', writer'⟩ := s'
      simp only at hrows' hwriter
      rw [hwriter, Table.ext (hrows.trans hrows'.symm)]
  | none =>
    obtain ⟨t, ht, hclash⟩ := Table.insert?_eq_none.mp hinsert
    simp only
    constructor
    · intro h
      split at h <;> cases h
    · rintro ⟨hfree, -⟩
      exact absurd hclash (hfree t ht)

theorem insert_eq_refused :
    s.insert i r = .refused ↔
      ∃ t, Clash t r ∧ (t ∈ s.committed.rows ∨ t ∈ (s.own i).rows) := by
  rw [insert]
  simp only [mem_committed, mem_own, ← and_or_left]
  cases hinsert : s.table.insert? r with
  | some table =>
    obtain ⟨hfree, -⟩ := Table.insert?_eq_some.mp hinsert
    simp only [reduceCtorEq, false_iff]
    rintro ⟨t, hclash, ht, -⟩
    exact hfree t ht hclash
  | none =>
    simp only
    split
    · rename_i h
      obtain ⟨t, ht, hclash, hwriter⟩ := h
      exact iff_of_true rfl ⟨t, hclash, ht, hwriter⟩
    · rename_i h
      simp only [reduceCtorEq, false_iff]
      rintro ⟨t, hclash, ht, hwriter⟩
      exact h ⟨t, ht, hclash, hwriter⟩

theorem insert_eq_waits (h : s.insert i r = .waits) :
    (∀ t ∈ s.committed.rows, ¬ Clash t r) ∧ ∃ j, j ≠ i ∧ ∃ t ∈ (s.own j).rows, Clash t r := by
  have hrefused : ¬ s.insert i r = .refused := by simp [h]
  rw [insert_eq_refused, not_exists] at hrefused
  have hinsert : s.table.insert? r = none := by
    rw [insert] at h
    split at h
    · cases h
    · assumption
  refine ⟨fun t ht hclash => hrefused t ⟨hclash, Or.inl ht⟩, ?_⟩
  obtain ⟨t, ht, hclash⟩ := Table.insert?_eq_none.mp hinsert
  cases hwriter : s.writer (Row.id t) with
  | none => exact absurd ⟨hclash, Or.inl (mem_committed.mpr ⟨ht, hwriter⟩)⟩ (hrefused t)
  | some j =>
    refine ⟨j, ?_, t, mem_own.mpr ⟨ht, hwriter⟩, hclash⟩
    rintro rfl
    exact hrefused t ⟨hclash, Or.inr (mem_own.mpr ⟨ht, hwriter⟩)⟩

theorem insert_writer (h : s.insert i r = .stored s') (ht : t ∈ s.table.rows) :
    s'.writer (Row.id t) = s.writer (Row.id t) := by
  obtain ⟨hfree, -, hwriter⟩ := insert_eq_stored.mp h
  rw [hwriter]
  exact Function.update_of_ne (fun hid => hfree t ht (Or.inl hid)) _ _

theorem insert_own_rows (h : s.insert i r = .stored s') :
    (s'.own i).rows = (s.own i).rows ++ [r] := by
  obtain ⟨-, hrows, hwriter⟩ := insert_eq_stored.mp h
  have hold : s.table.rows.filter (fun t => s'.writer (Row.id t) = some i) =
      s.table.rows.filter fun t => s.writer (Row.id t) = some i := by
    apply List.filter_congr
    intro t ht
    rw [insert_writer h ht]
  have hnew : s'.writer (Row.id r) = some i := by
    rw [hwriter, Function.update_self]
  simp only [own, Table.filter, hrows, List.filter_append, hold]
  simp [hnew]

theorem insert_committed (h : s.insert i r = .stored s') (ht : t ∈ s.committed.rows) :
    t ∈ s'.committed.rows := by
  obtain ⟨-, hrows, -⟩ := insert_eq_stored.mp h
  obtain ⟨hmem, hnone⟩ := mem_committed.mp ht
  rw [mem_committed, insert_writer h hmem, hrows]
  exact ⟨List.mem_append_left _ hmem, hnone⟩

theorem insert_keeps (h : s.insert i r = .stored s') (hji : j ≠ i) : Keeps j s s' := by
  obtain ⟨-, hrows, hwriter⟩ := insert_eq_stored.mp h
  constructor
  · intro t
    exact insert_committed h
  · intro t
    rw [mem_own, mem_own, hrows, List.mem_append, List.mem_singleton]
    constructor
    · rintro ⟨ht | rfl, hown⟩
      · rw [insert_writer h ht] at hown
        exact ⟨ht, hown⟩
      · rw [hwriter, Function.update_self, Option.some.injEq] at hown
        exact absurd hown.symm hji
    · rintro ⟨ht, hown⟩
      rw [insert_writer h ht]
      exact ⟨Or.inl ht, hown⟩

end

theorem settle_eq_none {k : Int} :
    s.settle i k = none ↔ s.writer k = none ∨ s.writer k = some i := by
  rw [settle]
  split <;> simp [*]

theorem settle_of_ne {k : Int} (hji : j ≠ i) : s.settle i k = some j ↔ s.writer k = some j := by
  rw [settle]
  split
  · rename_i h
    simp [h, hji.symm]
  · exact Iff.rfl

theorem settle_ne_self {k : Int} : s.settle i k ≠ some i := by
  rw [settle]
  split
  · simp
  · assumption

theorem mem_committed_commit :
    r ∈ (s.commit i).committed.rows ↔ r ∈ s.committed.rows ∨ r ∈ (s.own i).rows := by
  rw [mem_committed, mem_committed, mem_own, ← and_or_left, ← settle_eq_none]
  exact Iff.rfl

theorem own_commit : (s.commit i).own i = Table.empty := by
  apply Table.ext
  rw [Table.empty_rows, List.eq_nil_iff_forall_not_mem]
  intro r hr
  exact settle_ne_self (mem_own.mp hr).2

theorem own_rollback : (s.rollback i).own i = Table.empty := by
  apply Table.ext
  rw [Table.empty_rows, List.eq_nil_iff_forall_not_mem]
  intro r hr
  exact settle_ne_self (mem_own.mp hr).2

theorem commit_keeps (hji : j ≠ i) : Keeps j s (s.commit i) where
  committed r hr := mem_committed_commit.mpr (Or.inl hr)
  own r := by
    rw [mem_own, mem_own]
    exact and_congr_right fun _ => settle_of_ne hji

theorem rollback_keeps (hji : j ≠ i) : Keeps j s (s.rollback i) where
  committed r hr := by
    obtain ⟨hmem, hnone⟩ := mem_committed.mp hr
    refine mem_committed.mpr ⟨?_, settle_eq_none.mpr (Or.inl hnone)⟩
    simp [rollback, hmem, hnone]
  own r := by
    rw [mem_own, mem_own]
    constructor
    · rintro ⟨hmem, hown⟩
      exact ⟨(Table.mem_filter.mp hmem).1, (settle_of_ne hji).mp hown⟩
    · rintro ⟨hmem, hown⟩
      refine ⟨Table.mem_filter.mpr ⟨hmem, ?_⟩, (settle_of_ne hji).mpr hown⟩
      simp [hown, hji]

end Store

end Relational
