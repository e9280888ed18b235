import Mathlib.Data.List.MinMax
import Mathlib.Data.List.Sort
import Mathlib.Order.Basic

namespace OrderBy

universe u v w

variable {α : Type u} {β : Type v} {γ : Type w} {l l' : List α}

structure SameUpToTies (key : α → β) (l l' : List α) : Prop where
  perm : l.Perm l'
  keys : l.map key = l'.map key

structure Sorts (le : β → β → Bool) : Prop where
  trans : ∀ a b c, le a b = true → le b c = true → le a c = true
  total : ∀ a b, (le a b || le b a) = true
  antisymm : ∀ a b, le a b = true → le b a = true → a = b

theorem Sorts.of_linearOrder [LinearOrder β] : Sorts fun a b : β => decide (a ≤ b) where
  trans a b c hab hbc := by
    simp only [decide_eq_true_eq] at hab hbc ⊢
    exact hab.trans hbc
  total a b := by
    simp only [Bool.or_eq_true, decide_eq_true_eq]
    exact le_total a b
  antisymm a b hab hba := by
    simp only [decide_eq_true_eq] at hab hba
    exact le_antisymm hab hba

theorem Sorts.flip {le : β → β → Bool} (h : Sorts le) : Sorts fun a b => le b a where
  trans a b c hab hbc := h.trans c b a hbc hab
  total a b := h.total b a
  antisymm a b hab hba := h.antisymm a b hba hab

theorem Sorts.pairwise {le : β → β → Bool} (h : Sorts le) (key : α → β) (l : List α) :
    (l.mergeSort fun a b => le (key a) (key b)).Pairwise fun a b => le (key a) (key b) = true :=
  List.pairwise_mergeSort (fun a b c => h.trans (key a) (key b) (key c))
    (fun a b => h.total (key a) (key b)) l

/-- Two sorted lists of the same rows differ at most in the order of ties. -/
theorem Sorts.sameUpToTies {le : β → β → Bool} (h : Sorts le) {key : α → β} (hperm : l.Perm l')
    (hl : l.Pairwise fun a b => le (key a) (key b) = true)
    (hl' : l'.Pairwise fun a b => le (key a) (key b) = true) : SameUpToTies key l l' := by
  refine ⟨hperm, ?_⟩
  apply (hperm.map key).eq_of_pairwise fun a b _ _ => h.antisymm a b
  · exact List.pairwise_map.mpr hl
  · exact List.pairwise_map.mpr hl'

theorem Sorts.mergeSort_eq {le : β → β → Bool} (h : Sorts le) (key : α → β)
    (hkey : ∀ a ∈ l, ∀ b ∈ l', key a = key b → a = b) (hperm : l.Perm l') :
    (l.mergeSort fun a b => le (key a) (key b)) =
      l'.mergeSort fun a b => le (key a) (key b) := by
  have hsame : (l.mergeSort fun a b => le (key a) (key b)).Perm
      (l'.mergeSort fun a b => le (key a) (key b)) :=
    (List.mergeSort_perm _ _).trans (hperm.trans (List.mergeSort_perm _ _).symm)
  apply hsame.eq_of_pairwise _ (h.pairwise key l) (h.pairwise key l')
  intro a b ha hb hab hba
  exact hkey a (List.mem_mergeSort.mp ha) b (List.mem_mergeSort.mp hb) (h.antisymm _ _ hab hba)

theorem pairwise_lt_mergeSort [LinearOrder β] (key : α → β) (hnodup : l.Nodup)
    (hkey : ∀ a ∈ l, ∀ b ∈ l, key a = key b → a = b) :
    (l.mergeSort fun a b => decide (key a ≤ key b)).Pairwise fun a b => key a < key b := by
  have hsorts : Sorts fun a b : β => decide (a ≤ b) := .of_linearOrder
  have hsorted := hsorts.pairwise key l
  have hdistinct := (List.mergeSort_perm l fun a b => decide (key a ≤ key b)).nodup_iff.mpr hnodup
  apply (hsorted.and hdistinct).imp_of_mem
  rintro a b ha hb ⟨hle, hne⟩
  rw [List.mem_mergeSort] at ha hb
  refine lt_of_le_of_ne (of_decide_eq_true hle) ?_
  intro hsame
  exact hne (hkey a ha b hb hsame)

theorem Sorts.map_mergeSort {le : β → β → Bool} (h : Sorts le) (key : γ → β) {f f' : α → γ}
    (hperm : l.Perm l') (hf : ∀ a ∈ l', f a = f' a) :
    SameUpToTies key ((l.mergeSort fun a b => le (key (f a)) (key (f b))).map f)
      ((l'.mergeSort fun a b => le (key (f' a)) (key (f' b))).map f') := by
  have hsame : ((l.mergeSort fun a b => le (key (f a)) (key (f b))).map f).Perm
      ((l'.mergeSort fun a b => le (key (f' a)) (key (f' b))).map f') :=
    calc
      List.Perm _ (l.map f) := (List.mergeSort_perm _ _).map f
      List.Perm _ (l'.map f) := hperm.map f
      List.Perm _ (l'.map f') := .of_eq (List.map_congr_left hf)
      List.Perm _ _ := ((List.mergeSort_perm _ _).map f').symm
  apply h.sameUpToTies hsame
  · exact List.pairwise_map.mpr (h.pairwise (fun a => key (f a)) l)
  · exact List.pairwise_map.mpr (h.pairwise (fun a => key (f' a)) l')

theorem argmax_map [LinearOrder β] (key : α → β) (f : γ → α) (l : List γ) :
    (l.map f).argmax key = (l.argmax fun c => key (f c)).map f := by
  induction l using List.reverseRecOn with
  | nil => rfl
  | append_singleton l c ih =>
    rw [List.map_append, List.map_singleton, List.argmax_concat, ih, List.argmax_concat]
    cases l.argmax fun c => key (f c) with
    | none => rfl
    | some m =>
      simp only [Option.map_some]
      split <;> rfl

end OrderBy
