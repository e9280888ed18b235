import CheckinService.Lib.Python.Int

namespace Py

def numeral (cs : List Char) : Option (List Nat) :=
  if maxStrDigits < cs.length then none
  else (cs.mapM decimalValue).map (List.dropWhile (· == 0))

def digitRanges : List (Nat × Nat) := decimalZeros.map (fun z => (z, z + 9)) ++ otherDigits

def spaceRanges : List (Nat × Nat) :=
  [(9, 13), (28, 32), (0x85, 0x85), (0xa0, 0xa0), (0x1680, 0x1680), (0x2000, 0x200a),
   (0x2028, 0x2029), (0x202f, 0x202f), (0x205f, 0x205f), (0x3000, 0x3000)]

theorem digitRanges_apart :
    ∀ r ∈ digitRanges, ∀ s ∈ spaceRanges, r.2 < s.1 ∨ s.2 < r.1 := by decide +kernel

theorem range_of_isDigit {c : Char} (h : isDigit c = true) :
    ∃ r ∈ digitRanges, r.1 ≤ c.toNat ∧ c.toNat ≤ r.2 := by
  rw [isDigit, Bool.or_eq_true] at h
  rcases h with h | h
  · rw [decimalValue, Option.isSome_map, List.find?_isSome] at h
    obtain ⟨z, hz, hrange⟩ := h
    simp only [Bool.and_eq_true, decide_eq_true_eq] at hrange
    exact ⟨(z, z + 9), List.mem_append_left _ (List.mem_map_of_mem hz), hrange⟩
  · obtain ⟨r, hr, hrange⟩ := List.any_eq_true.mp h
    simp only [Bool.and_eq_true, decide_eq_true_eq] at hrange
    exact ⟨r, List.mem_append_right _ hr, hrange⟩

theorem range_of_isIntSpace {c : Char} (h : isIntSpace c = true) :
    ∃ s ∈ spaceRanges, s.1 ≤ c.toNat ∧ c.toNat ≤ s.2 := by
  simp only [isIntSpace, isSpace, Bool.or_eq_true, Bool.and_eq_true, decide_eq_true_eq,
    beq_iff_eq] at h
  simp only [spaceRanges, List.exists_mem_cons_iff, List.not_mem_nil, false_and, exists_false,
    or_false]
  rcases h with (h | rfl) | h
  · exact Or.inl h
  · exact Or.inr (Or.inl (by decide))
  · omega

theorem isIntSpace_of_isDigit {c : Char} (h : isDigit c = true) : isIntSpace c = false := by
  rw [← Bool.not_eq_true]
  intro hspace
  obtain ⟨r, hr, hlo, hhi⟩ := range_of_isDigit h
  obtain ⟨s, hs, hlo', hhi'⟩ := range_of_isIntSpace hspace
  rcases digitRanges_apart r hr s hs with hlt | hlt <;> omega

theorem digitsAfter_eq_mapM {cs : List Char} (h : '_' ∉ cs) :
    digitsAfter cs = cs.mapM decimalValue := by
  induction cs with
  | nil => rfl
  | cons c cs ih =>
    rw [List.mem_cons, not_or] at h
    rw [digitsAfter.eq_3 c cs (fun _ _ hc _ => h.1 hc.symm), List.mapM_cons, ih h.2]

theorem digits_eq_mapM {cs : List Char} (h : '_' ∉ cs) (hne : cs ≠ []) :
    digits cs = cs.mapM decimalValue := by
  cases cs with
  | nil => exact absurd rfl hne
  | cons c cs =>
    rw [List.mem_cons, not_or] at h
    rw [digits, List.mapM_cons, digitsAfter_eq_mapM h.2]

theorem forall₂_of_mapM {cs : List Char} {ds : List Nat} (h : cs.mapM decimalValue = some ds) :
    List.Forall₂ (fun c d => decimalValue c = some d) cs ds := by
  induction cs generalizing ds with
  | nil =>
    cases h
    exact .nil
  | cons c cs ih =>
    rw [List.mapM_cons] at h
    obtain ⟨d, hd, h⟩ := Option.bind_eq_some_iff.mp h
    obtain ⟨ds, hds, h⟩ := Option.bind_eq_some_iff.mp h
    cases h
    exact .cons hd (ih hds)

theorem le_of_forall₂ {cs : List Char} {ds : List Nat}
    (h : List.Forall₂ (fun c d => decimalValue c = some d) cs ds) : ∀ d ∈ ds, d ≤ 9 := by
  induction h with
  | nil => simp
  | cons hd _ ih => exact List.forall_mem_cons.mpr ⟨decimalValue_le hd, ih⟩

theorem ofDigits_dropWhile (ds : List Nat) :
    Nat.ofDigits 10 (ds.dropWhile (· == 0)).reverse = Nat.ofDigits 10 ds.reverse := by
  induction ds with
  | nil => rfl
  | cons d ds ih =>
    by_cases hd : d = 0
    · rw [List.dropWhile_cons_of_pos (by simpa using hd), ih, hd, Nat.ofDigits_reverse_zero_cons]
    · rw [List.dropWhile_cons_of_neg (by simpa using hd)]

theorem numeral_eq_some {cs : List Char} {ds : List Nat} :
    numeral cs = some ds ↔ cs.length ≤ maxStrDigits ∧
      ∃ all, cs.mapM decimalValue = some all ∧ all.dropWhile (· == 0) = ds := by
  rw [numeral]
  split
  · rename_i hlong
    simp [not_le.mpr hlong]
  · rename_i hlong
    simp [not_lt.mp hlong]

theorem digits_numeral {cs : List Char} {ds : List Nat} (h : numeral cs = some ds) :
    Nat.digits 10 (Nat.ofDigits 10 ds.reverse) = ds.reverse := by
  obtain ⟨-, all, hall, rfl⟩ := numeral_eq_some.mp h
  apply Nat.digits_ofDigits 10 (by decide)
  · intro d hd
    have hmem := (List.dropWhile_sublist _).mem (List.mem_reverse.mp hd)
    exact Nat.lt_succ_of_le (le_of_forall₂ (forall₂_of_mapM hall) d hmem)
  · intro hne
    rw [List.getLast_reverse]
    simpa using List.head_dropWhile_not (· == 0) (l := all) (by simpa using hne)

theorem int_of_digits {cs : List Char} (h : ∀ c ∈ cs, isDigit c = true) (hne : cs ≠ []) {n : Int} :
    int (String.ofList cs) = .ok n ↔
      ∃ ds, numeral cs = some ds ∧ n = (Nat.ofDigits 10 ds.reverse : Nat) := by
  have hother : ∀ d, isDigit d = false → d ∉ cs := by
    intro d hd hmem
    rw [h d hmem] at hd
    cases hd
  rw [int, String.toList_ofList, trim_eq_self fun c hc => isIntSpace_of_isDigit (h c hc)]
  split
  · exact absurd (List.mem_cons_self ..) (hother '-' rfl)
  · exact absurd (List.mem_cons_self ..) (hother '+' rfl)
  · simp only [natOfDigits, digits_eq_mapM (hother '_' rfl) hne, numeral_eq_some]
    cases hall : cs.mapM decimalValue with
    | none => simp [bind, Except.bind]
    | some ds =>
      have hlen := (forall₂_of_mapM hall).length_eq
      simp only [Option.some.injEq, exists_eq_left', ← hlen]
      split
      · rename_i hlong
        simp [bind, Except.bind, not_le.mpr hlong]
      · rename_i hlong
        simp [bind, Except.bind, pure, Except.pure, not_lt.mp hlong, foldl_eq_ofDigits,
          ofDigits_dropWhile, eq_comm]

end Py
