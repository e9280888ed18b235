import CheckinService.Lib.Except
import CheckinService.Lib.Python.Str
import Mathlib.Data.Nat.Digits.Defs
import Mathlib.Data.Rat.Floor
import Mathlib.Algebra.Order.Round

/-! Python's conversions between numbers and text: `int(str)`, `str(int)`, `int(float)` and
`round`.  A Unicode decimal digit is one of ten consecutive code points from a zero in
`decimalZeros`; between digits `int` allows single underscores. -/

namespace Py

def decimalZeros : List Nat :=
  [0x30, 0x660, 0x6f0, 0x7c0, 0x966, 0x9e6, 0xa66, 0xae6, 0xb66, 0xbe6, 0xc66, 0xce6, 0xd66,
   0xde6, 0xe50, 0xed0, 0xf20, 0x1040, 0x1090, 0x17e0, 0x1810, 0x1946, 0x19d0, 0x1a80, 0x1a90,
   0x1b50, 0x1bb0, 0x1c40, 0x1c50, 0xa620, 0xa8d0, 0xa900, 0xa9d0, 0xa9f0, 0xaa50, 0xabf0,
   0xff10, 0x104a0, 0x10d30, 0x11066, 0x110f0, 0x11136, 0x111d0, 0x112f0, 0x11450, 0x114d0,
   0x11650, 0x116c0, 0x11730, 0x118e0, 0x11950, 0x11c50, 0x11d50, 0x11da0, 0x16a60, 0x16ac0,
   0x16b50, 0x1d7ce, 0x1d7d8, 0x1d7e2, 0x1d7ec, 0x1d7f6, 0x1e140, 0x1e2f0, 0x1e950, 0x1fbf0]

/-- Superscripts, subscripts and circled digits: digits for `str.isdigit`, not for `int`. -/
def otherDigits : List (Nat × Nat) :=
  [(0xb2, 0xb3), (0xb9, 0xb9), (0x1369, 0x1371), (0x19da, 0x19da), (0x2070, 0x2070),
   (0x2074, 0x2079), (0x2080, 0x2089), (0x2460, 0x2468), (0x2474, 0x247c), (0x2488, 0x2490),
   (0x24ea, 0x24ea), (0x24f5, 0x24fd), (0x24ff, 0x24ff), (0x2776, 0x277e), (0x2780, 0x2788),
   (0x278a, 0x2792), (0x10a40, 0x10a43), (0x10e60, 0x10e68), (0x11052, 0x1105a),
   (0x1f100, 0x1f10a)]

def decimalValue (c : Char) : Option Nat :=
  (decimalZeros.find? fun z => z ≤ c.toNat && c.toNat ≤ z + 9).map (c.toNat - ·)

def isDigit (c : Char) : Bool :=
  (decimalValue c).isSome || otherDigits.any fun r => r.1 ≤ c.toNat && c.toNat ≤ r.2

/-- The white space `int` strips: the ASCII controls that `str.strip` also takes stay. -/
def isIntSpace (c : Char) : Bool :=
  (9 ≤ c.toNat && c.toNat ≤ 13) || c == ' ' || (127 ≤ c.toNat && isSpace c)

def digitsAfter : List Char → Option (List Nat)
  | [] => some []
  | '_' :: c :: cs => do
    let d ← decimalValue c
    let ds ← digitsAfter cs
    return d :: ds
  | c :: cs => do
    let d ← decimalValue c
    let ds ← digitsAfter cs
    return d :: ds

def digits : List Char → Option (List Nat)
  | [] => none
  | c :: cs => do
    let d ← decimalValue c
    let ds ← digitsAfter cs
    return d :: ds

def maxStrDigits : Nat := 4300

def natOfDigits (cs : List Char) : Except Exc Nat :=
  match digits cs with
  | none => .error .valueError
  | some ds =>
    if maxStrDigits < ds.length then .error .valueError
    else .ok (ds.foldl (fun n d => 10 * n + d) 0)

def int (s : String) : Except Exc Int :=
  match trim isIntSpace s.toList with
  | '-' :: cs => do return -(← natOfDigits cs : Nat)
  | '+' :: cs => do return (← natOfDigits cs : Nat)
  | cs => do return (← natOfDigits cs : Nat)

def str (n : Int) : Except Exc String :=
  let ds := Nat.toDigits 10 n.natAbs
  if maxStrDigits < ds.length then .error .valueError
  else .ok (String.ofList (if n < 0 then '-' :: ds else ds))

def trunc (q : ℚ) : Int := if 0 ≤ q then ⌊q⌋ else ⌈q⌉

def roundTo (digits : Nat) (q : ℚ) : ℚ :=
  let s := q * 10 ^ digits
  let f := ⌊s⌋
  let n := if s - f < 1 / 2 then f else if 1 / 2 < s - f then f + 1
    else if f % 2 = 0 then f else f + 1
  n / 10 ^ digits

theorem trunc_of_nonneg {q : ℚ} (h : 0 ≤ q) : trunc q = ⌊q⌋ := if_pos h

theorem decimalValue_of_isDigit {c : Char} (h : c.isDigit = true) :
    decimalValue c = some (c.toNat - 48) := by
  have hrange : 48 ≤ c.toNat ∧ c.toNat ≤ 57 := by
    simpa [Char.isDigit, UInt32.le_iff_toNat_le] using h
  simp [decimalValue, decimalZeros, hrange]

theorem digitsAfter_of_isDigit {cs : List Char} (h : ∀ c ∈ cs, c.isDigit = true) :
    digitsAfter cs = some (cs.map fun c => c.toNat - 48) := by
  induction cs with
  | nil => rfl
  | cons c cs ih =>
    have hc : c.isDigit = true := h c (by simp)
    have hne : c ≠ '_' := by
      rintro rfl
      cases hc
    have hcs := ih fun d hd => h d (by simp [hd])
    rw [digitsAfter.eq_3 c cs (fun _ _ h _ => hne h), decimalValue_of_isDigit hc, hcs]
    rfl

theorem isDigit_of_mem {n : Nat} {c : Char} (h : c ∈ Nat.toDigits 10 n) : c.isDigit = true :=
  Nat.isDigit_of_mem_toDigits (by decide) (by decide) h

theorem natOfDigits_toDigits {n : Nat} (h : (Nat.toDigits 10 n).length ≤ maxStrDigits) :
    natOfDigits (Nat.toDigits 10 n) = .ok n := by
  have hdigit : ∀ c ∈ Nat.toDigits 10 n, c.isDigit = true := fun _ => isDigit_of_mem
  have hdigits : digits (Nat.toDigits 10 n) =
      some ((Nat.toDigits 10 n).map fun c => c.toNat - 48) := by
    cases hds : Nat.toDigits 10 n with
    | nil => exact absurd hds Nat.toDigits_ne_nil
    | cons c cs =>
      rw [hds] at hdigit
      rw [digits, decimalValue_of_isDigit (hdigit c (by simp)),
        digitsAfter_of_isDigit fun d hd => hdigit d (by simp [hd])]
      rfl
  rw [natOfDigits, hdigits]
  simp only [List.length_map, not_lt.mpr h, ↓reduceIte, List.foldl_map, Except.ok.injEq]
  exact Nat.ofDigitChars_ten_toDigits

theorem trim_eq_self {p : Char → Bool} {cs : List Char} (h : ∀ c ∈ cs, p c = false) :
    trim p cs = cs := by
  have hdrop : ∀ ds : List Char, (∀ c ∈ ds, p c = false) → ds.dropWhile p = ds := by
    intro ds hds
    cases ds with
    | nil => rfl
    | cons d ds => simp [hds d (by simp)]
  rw [trim, hdrop cs h, hdrop cs.reverse (by simpa using h), List.reverse_reverse]

theorem str_chars {n : Int} {s : String} (h : str n = .ok s) :
    ∀ c ∈ s.toList, c = '-' ∨ c.isDigit = true := by
  rw [str] at h
  split at h
  · cases h
  · cases h
    intro c hc
    rw [String.toList_ofList] at hc
    split at hc
    · rcases List.mem_cons.mp hc with rfl | hc
      · exact Or.inl rfl
      · exact Or.inr (isDigit_of_mem hc)
    · exact Or.inr (isDigit_of_mem hc)

theorem int_str {n : Int} {s : String} (h : str n = .ok s) : int s = .ok n := by
  have hspace : ∀ c ∈ s.toList, isIntSpace c = false := by
    intro c hc
    rcases str_chars h c hc with rfl | hdigit
    · rfl
    · have hrange : 48 ≤ c.toNat ∧ c.toNat ≤ 57 := by
        simpa [Char.isDigit, UInt32.le_iff_toNat_le] using hdigit
      have hne : c ≠ ' ' := by
        rintro rfl
        cases hdigit
      simp only [isIntSpace, Bool.or_eq_false_iff, Bool.and_eq_false_iff, decide_eq_false_iff_not]
      refine ⟨⟨?_, by simpa using hne⟩, ?_⟩ <;> omega
  rw [int, trim_eq_self hspace]
  rw [str] at h
  split at h
  · cases h
  · rename_i hlen
    cases h
    have hnat := natOfDigits_toDigits (not_lt.mp hlen)
    rw [String.toList_ofList]
    split_ifs with hneg
    · simp only [hnat, bind, Except.bind, pure, Except.pure, Except.ok.injEq]
      omega
    · have hn : (n.natAbs : Int) = n := by omega
      split
      · rename_i cs hcs
        cases isDigit_of_mem (n := n.natAbs) (c := '-') (by simp [hcs])
      · rename_i cs hcs
        cases isDigit_of_mem (n := n.natAbs) (c := '+') (by simp [hcs])
      · simp only [hnat, bind, Except.bind, pure, Except.pure, Except.ok.injEq]
        exact hn

theorem decimalValue_le {c : Char} {d : Nat} (h : decimalValue c = some d) : d ≤ 9 := by
  obtain ⟨z, hz, rfl⟩ := Option.map_eq_some_iff.mp h
  have hrange := List.find?_some hz
  simp only [Bool.and_eq_true, decide_eq_true_eq] at hrange
  omega

theorem digitsAfter_le {cs : List Char} {ds : List Nat} (h : digitsAfter cs = some ds) :
    ∀ d ∈ ds, d ≤ 9 := by
  induction cs using digitsAfter.induct generalizing ds with
  | case1 =>
    cases h
    simp
  | case2 c cs ih =>
    rw [digitsAfter] at h
    obtain ⟨d, hd, h⟩ := Option.bind_eq_some_iff.mp h
    obtain ⟨ds, hds, h⟩ := Option.bind_eq_some_iff.mp h
    cases h
    exact List.forall_mem_cons.mpr ⟨decimalValue_le hd, ih hds⟩
  | case3 c cs hother ih =>
    rw [digitsAfter.eq_3 c cs hother] at h
    obtain ⟨d, hd, h⟩ := Option.bind_eq_some_iff.mp h
    obtain ⟨ds, hds, h⟩ := Option.bind_eq_some_iff.mp h
    cases h
    exact List.forall_mem_cons.mpr ⟨decimalValue_le hd, ih hds⟩

theorem digits_le {cs : List Char} {ds : List Nat} (h : digits cs = some ds) : ∀ d ∈ ds, d ≤ 9 := by
  cases cs with
  | nil => cases h
  | cons c cs =>
    rw [digits] at h
    obtain ⟨d, hd, h⟩ := Option.bind_eq_some_iff.mp h
    obtain ⟨ds, hds, h⟩ := Option.bind_eq_some_iff.mp h
    cases h
    exact List.forall_mem_cons.mpr ⟨decimalValue_le hd, digitsAfter_le hds⟩

theorem foldl_eq_ofDigits (ds : List Nat) :
    ds.foldl (fun n d => 10 * n + d) 0 = Nat.ofDigits 10 ds.reverse := by
  rw [Nat.ofDigits_eq_foldr, List.foldr_reverse]
  simp only [Nat.cast_id, Nat.add_comm]

theorem natOfDigits_lt {cs : List Char} {n : Nat} (h : natOfDigits cs = .ok n) :
    n < 10 ^ maxStrDigits := by
  rw [natOfDigits] at h
  split at h
  · cases h
  · rename_i ds hds
    split at h
    · cases h
    · rename_i hlen
      cases h
      have hdigits : ∀ d ∈ ds.reverse, d < 10 := by
        intro d hd
        exact Nat.lt_succ_of_le (digits_le hds d (List.mem_reverse.mp hd))
      have hlt := Nat.ofDigits_lt_base_pow_length (by decide) hdigits
      rw [List.length_reverse] at hlt
      rw [foldl_eq_ofDigits]
      exact hlt.trans_le (Nat.pow_le_pow_right (by decide) (not_lt.mp hlen))

theorem str_of_natAbs_lt {n : Int} (h : n.natAbs < 10 ^ maxStrDigits) : ∃ s, str n = .ok s := by
  have hlen := (Nat.length_toDigits_le_iff (b := 10) (by decide) (by decide)).mpr h
  rw [str]
  exact ⟨_, if_neg (not_lt.mpr hlen)⟩

/-- What `int` has read, `str` can print: both have the same bound on digits. -/
theorem str_of_int {s : String} {n : Int} (h : int s = .ok n) : ∃ t, str n = .ok t := by
  apply str_of_natAbs_lt
  rw [int] at h
  split at h <;> (
    obtain ⟨m, hm, h⟩ := Except.bind_eq_ok.mp h
    cases h)
  · rw [Int.natAbs_neg, Int.natAbs_natCast]
    exact natOfDigits_lt hm
  · exact natOfDigits_lt hm
  · exact natOfDigits_lt hm

end Py
