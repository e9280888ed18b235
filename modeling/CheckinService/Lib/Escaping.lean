import Mathlib.Data.List.Infix

/-! Texts in which every letter is written as itself or, where it may not stand, as a word that
a mark begins; and what is left of such a text when it is cut. -/

structure Escaping (α : Type*) where
  mark : α
  write : α → List α
  /-- A word has its mark in front and nowhere else. -/
  word : ∀ a, write a = [a] ∧ a ≠ mark ∨ ∃ body, write a = mark :: body ∧ mark ∉ body
  /-- No word begins another. -/
  instant : ∀ a b, write a <+: write b → write a = write b

namespace Escaping

variable {α : Type*} {e : Escaping α} {as : List α} {n : Nat}

def text (e : Escaping α) (as : List α) : List α := as.flatMap e.write

def Whole (e : Escaping α) (letters : List α) : Prop :=
  ∀ rest, e.mark :: rest <:+ letters → ∃ a, e.write a <+: e.mark :: rest

def Clean (e : Escaping α) (as : List α) (n : Nat) : Prop :=
  (e.text as).length ≤ n ∨ ∃ kept ∈ as.inits, (e.text kept).length = n

instance (e : Escaping α) (as : List α) (n : Nat) : Decidable (e.Clean as n) :=
  inferInstanceAs (Decidable (_ ∨ _))

/-- A reader takes one word after the other; what it makes of broken words is its own affair. -/
structure Reader (e : Escaping α) where
  read : List α → List α
  read_nil : read [] = []
  read_write : ∀ a rest, read (e.write a ++ rest) = a :: read rest

@[simp] theorem text_nil (e : Escaping α) : e.text [] = [] := rfl

@[simp] theorem text_cons (e : Escaping α) (a : α) (as : List α) :
    e.text (a :: as) = e.write a ++ e.text as := rfl

theorem text_mono {kept : List α} (h : kept <+: as) : e.text kept <+: e.text as := by
  obtain ⟨rest, rfl⟩ := h
  rw [text, text, List.flatMap_append]
  exact List.prefix_append _ _

theorem Reader.read_text (r : e.Reader) (as : List α) : r.read (e.text as) = as := by
  induction as with
  | nil => exact r.read_nil
  | cons a as ih => rw [text_cons, r.read_write, ih]

/-- A cut leaves some of the words, and of one more a part that is not all of it. -/
theorem take_text (e : Escaping α) (as : List α) (n : Nat) :
    ∃ kept part, kept <+: as ∧ (e.text as).take n = e.text kept ++ part ∧
      (part = [] ∨ ∃ a, part <+: e.write a ∧ part.length < (e.write a).length) := by
  induction as generalizing n with
  | nil => exact ⟨[], [], List.prefix_rfl, by simp, Or.inl rfl⟩
  | cons a as ih =>
    rw [text_cons, List.take_append]
    by_cases hn : n < (e.write a).length
    · refine ⟨[], (e.write a).take n, List.nil_prefix, ?_, Or.inr ⟨a, List.take_prefix _ _, ?_⟩⟩
      · rw [Nat.sub_eq_zero_of_le hn.le]
        simp
      · rw [List.length_take]
        exact (Nat.min_le_left _ _).trans_lt hn
    · obtain ⟨kept, part, hkept, htake, hpart⟩ := ih (n - (e.write a).length)
      refine ⟨a :: kept, part, List.cons_prefix_cons.mpr ⟨rfl, hkept⟩, ?_, hpart⟩
      rw [List.take_of_length_le (not_lt.mp hn), htake, text_cons, List.append_assoc]

theorem suffix_of_unmarked {pre rest after : List α} (hpre : e.mark ∉ pre)
    (h : e.mark :: rest <:+ pre ++ after) : e.mark :: rest <:+ after := by
  induction pre with
  | nil => exact h
  | cons a pre ih =>
    rw [List.mem_cons, not_or] at hpre
    rcases List.suffix_cons_iff.mp h with heq | h
    · exact absurd (List.cons.inj heq).1 hpre.1
    · exact ih hpre.2 h

theorem mark_suffix {rest after : List α} (h : e.mark :: rest <:+ e.text as ++ after) :
    (∃ a, e.write a <+: e.mark :: rest) ∨ e.mark :: rest <:+ after := by
  induction as with
  | nil => exact Or.inr h
  | cons a as ih =>
    rw [text_cons, List.append_assoc] at h
    rcases e.word a with ⟨hplain, hne⟩ | ⟨body, hword, hbody⟩
    · rw [hplain] at h
      have hletter : e.mark ∉ [a] := by simpa using Ne.symm hne
      exact ih (suffix_of_unmarked hletter h)
    · rw [hword, List.cons_append] at h
      rcases List.suffix_cons_iff.mp h with heq | h
      · refine Or.inl ⟨a, ?_⟩
        rw [hword, heq]
        exact List.cons_prefix_cons.mpr ⟨rfl, List.prefix_append _ _⟩
      · exact ih (suffix_of_unmarked hbody h)

theorem whole_text (e : Escaping α) (as : List α) : e.Whole (e.text as) := by
  intro rest h
  rw [← List.append_nil (e.text as)] at h
  rcases mark_suffix h with hword | hnil
  · exact hword
  · exact absurd (List.suffix_nil.mp hnil) (List.cons_ne_nil _ _)

theorem not_whole_part {part : List α} {a : α} (hpart : part <+: e.write a) (hne : part ≠ [])
    (hlen : part.length < (e.write a).length) : ¬ e.Whole (e.text as ++ part) := by
  intro hwhole
  obtain ⟨rest, rfl⟩ : ∃ rest, part = e.mark :: rest := by
    cases part with
    | nil => exact absurd rfl hne
    | cons b rest =>
      rcases e.word a with ⟨hplain, -⟩ | ⟨body, hword, -⟩
      · simp [hplain] at hlen
      · rw [hword] at hpart
        exact ⟨rest, by rw [(List.cons_prefix_cons.mp hpart).1]⟩
  obtain ⟨b, hb⟩ := hwhole rest (List.suffix_append _ _)
  rw [← e.instant b a (hb.trans hpart)] at hlen
  exact absurd hb.length_le (not_le.mpr hlen)

theorem clean_iff :
    e.Clean as n ↔ ∃ kept, kept <+: as ∧ (e.text as).take n = e.text kept := by
  constructor
  · rintro (hall | ⟨kept, hkept, rfl⟩)
    · exact ⟨as, List.prefix_rfl, List.take_of_length_le hall⟩
    · rw [List.mem_inits] at hkept
      exact ⟨kept, hkept, (List.prefix_iff_eq_take.mp (text_mono hkept)).symm⟩
  · rintro ⟨kept, hkept, htake⟩
    have hlen := congrArg List.length htake
    rw [List.length_take] at hlen
    rcases Nat.le_total (e.text as).length n with hle | hle
    · exact Or.inl hle
    · rw [Nat.min_eq_left hle] at hlen
      exact Or.inr ⟨kept, (List.mem_inits _ _).mpr hkept, hlen.symm⟩

theorem whole_take_iff : e.Whole ((e.text as).take n) ↔ e.Clean as n := by
  rw [clean_iff]
  constructor
  · intro hwhole
    obtain ⟨kept, part, hkept, htake, hpart⟩ := e.take_text as n
    rw [htake] at hwhole
    refine ⟨kept, hkept, ?_⟩
    rcases hpart with rfl | ⟨a, hpart, hlen⟩
    · rw [htake, List.append_nil]
    · by_cases hne : part = []
      · rw [htake, hne, List.append_nil]
      · exact absurd hwhole (not_whole_part hpart hne hlen)
  · rintro ⟨kept, -, htake⟩
    rw [htake]
    exact e.whole_text kept

theorem Reader.read_take (r : e.Reader) (h : e.Clean as n) :
    r.read ((e.text as).take n) <+: as := by
  obtain ⟨kept, hkept, htake⟩ := clean_iff.mp h
  rw [htake, r.read_text]
  exact hkept

end Escaping
