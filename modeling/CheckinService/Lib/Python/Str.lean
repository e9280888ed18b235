import Mathlib.Data.List.Basic
import Mathlib.Data.List.Infix
import Mathlib.Data.List.TakeWhile
import Mathlib.Data.String.Basic

/-! Python's `str`, as far as the standard library documents it, on Lean strings.
`orNone` is `s or None`, for which the empty string counts as absent; `upper` acts on the
letters of ASCII; `IsHex` is the text of a `hexdigest()`. -/

namespace Py

inductive Exc where
  | typeError | valueError | integrityError
  deriving DecidableEq

def isSpace (c : Char) : Bool :=
  let n := c.toNat
  (9 ≤ n && n ≤ 13) || (28 ≤ n && n ≤ 32) || n == 0x85 || n == 0xa0 || n == 0x1680 ||
    (0x2000 ≤ n && n ≤ 0x200a) || n == 0x2028 || n == 0x2029 || n == 0x202f || n == 0x205f ||
    n == 0x3000

def trim (p : Char → Bool) (cs : List Char) : List Char :=
  ((cs.dropWhile p).reverse.dropWhile p).reverse

def strip (s : String) : String := String.ofList (trim isSpace s.toList)

def upper (s : String) : String := String.ofList (s.toList.map Char.toUpper)

def take (n : Nat) (s : String) : String := String.ofList (s.toList.take n)

def startsWith (p s : String) : Bool := p.toList.isPrefixOf s.toList

def isAscii (s : String) : Bool := s.toList.all fun c => c.toNat < 128

def split (d : Char) (s : String) : List String := (s.toList.splitOn d).map String.ofList

def orNone : Option String → Option String
  | some s => if s = "" then none else some s
  | none => none

def compareDigest (a b : String) : Except Exc Bool :=
  if isAscii a && isAscii b then .ok (a = b) else .error .typeError

theorem trim_eq_nil {p : Char → Bool} {cs : List Char} :
    trim p cs = [] ↔ ∀ c ∈ cs, p c = true := by
  rw [trim, List.reverse_eq_nil_iff, List.dropWhile_eq_nil_iff]
  simp only [List.mem_reverse]
  constructor
  · intro h c hc
    have hsplit : cs.takeWhile p ++ cs.dropWhile p = cs := List.takeWhile_append_dropWhile
    rw [← hsplit] at hc
    rcases List.mem_append.mp hc with hc | hc
    · exact List.mem_takeWhile_imp hc
    · exact h c hc
  · intro h c hc
    exact h c ((List.dropWhile_sublist p).mem hc)

theorem mem_of_mem_trim {p : Char → Bool} {cs : List Char} {c : Char} (h : c ∈ trim p cs) :
    c ∈ cs := by
  rw [trim, List.mem_reverse] at h
  have hdropped := (List.dropWhile_sublist p).mem h
  exact (List.dropWhile_sublist p).mem (List.mem_reverse.mp hdropped)

theorem length_take_le (n : Nat) (s : String) : (take n s).length ≤ n := by
  rw [take, String.length_ofList]
  exact List.length_take_le n s.toList

theorem split_intercalate {d : Char} {parts : List String} (hne : parts ≠ [])
    (h : ∀ p ∈ parts, d ∉ p.toList) :
    split d (String.intercalate (String.singleton d) parts) = parts := by
  rw [split, String.toList_intercalate]
  have hd : (String.singleton d).toList = [d] := by simp
  rw [hd, List.splitOn_intercalate]
  · simp [Function.comp_def]
  · simpa using h
  · simpa using hne

theorem orNone_eq_some {o : Option String} {s : String} :
    orNone o = some s ↔ o = some s ∧ s ≠ "" := by
  cases o with
  | none => simp [orNone]
  | some t =>
    simp only [orNone, Option.some.injEq]
    split
    · rename_i h
      subst h
      constructor
      · intro h
        cases h
      · rintro ⟨rfl, h⟩
        exact absurd rfl h
    · rename_i h
      rw [Option.some.injEq]
      constructor
      · rintro rfl
        exact ⟨rfl, h⟩
      · exact And.left

theorem orNone_orNone (o : Option String) : orNone (orNone o) = orNone o := by
  cases o with
  | none => rfl
  | some s =>
    by_cases h : s = "" <;> simp [orNone, h]

theorem compareDigest_of_ascii {a b : String} (ha : isAscii a = true) (hb : isAscii b = true) :
    compareDigest a b = .ok (decide (a = b)) := by simp [compareDigest, ha, hb]

def IsHex (s : String) : Prop := ∀ c ∈ s.toList, c ∈ "0123456789abcdef".toList

-- not by deciding it of every `Char`
instance (s : String) : Decidable (IsHex s) :=
  List.decidableBAll (fun c => c ∈ "0123456789abcdef".toList) s.toList

theorem IsHex.ascii {s : String} (h : IsHex s) : isAscii s = true := by
  rw [isAscii, List.all_eq_true]
  intro c hc
  have hascii : ("0123456789abcdef".toList.all fun c => c.toNat < 128) = true := by decide
  exact List.all_eq_true.mp hascii c (h c hc)

theorem IsHex.not_mem {s : String} (h : IsHex s) {d : Char}
    (hd : d ∉ "0123456789abcdef".toList) : d ∉ s.toList := fun hs => hd (h d hs)

theorem IsHex.take {s : String} (h : IsHex s) (n : Nat) : IsHex (take n s) := by
  intro c hc
  rw [Py.take, String.toList_ofList] at hc
  exact h c (List.mem_of_mem_take hc)

end Py
