import CheckinService.Lib.Python.Int

/-! Python's finite `float`s, by their exact values. -/

namespace Py

theorem roundTo_nonneg {digits : Nat} {q : ℚ} (h : 0 ≤ q) : 0 ≤ roundTo digits q := by
  have hfloor : 0 ≤ ⌊q * 10 ^ digits⌋ := Int.floor_nonneg.mpr (by positivity)
  rw [roundTo]
  apply div_nonneg _ (by positivity)
  rw [Int.cast_nonneg_iff]
  split_ifs <;> omega

theorem roundTo_div (digits : Nat) (n : Int) :
    roundTo digits (n / 10 ^ digits) = n / 10 ^ digits := by
  have hscaled : (n : ℚ) / 10 ^ digits * 10 ^ digits = n := div_mul_cancel₀ _ (by positivity)
  simp [roundTo, hscaled]

def binaryExponent (q : ℚ) : Int :=
  let e := (q.num.natAbs.log2 : Int) - q.den.log2
  if (2 : ℚ) ^ e ≤ |q| then e else e - 1

/-- The nearest number of 53 bits, the even one if two are as near. -/
def double (q : ℚ) : ℚ :=
  let unit : ℚ := 2 ^ max (binaryExponent q - 52) (-1074)
  roundTo 0 (q / unit) * unit

theorem double_nonneg {q : ℚ} (h : 0 ≤ q) : 0 ≤ double q := by
  have hunit : (0 : ℚ) ≤ 2 ^ max (binaryExponent q - 52) (-1074) := zpow_nonneg (by norm_num) _
  exact mul_nonneg (roundTo_nonneg (div_nonneg h hunit)) hunit

/-- The sign is that of a zero too. -/
structure Float where
  negative : Bool := false
  magnitude : ℚ
  nonneg : 0 ≤ magnitude

namespace Float

def value (x : Float) : ℚ := if x.negative then -x.magnitude else x.magnitude

def ofRat (q : ℚ) : Float := ⟨q < 0, double |q|, double_nonneg (abs_nonneg q)⟩

/-- `round(x, digits)` -/
def round (digits : Nat) (x : Float) : Float :=
  ⟨x.negative, double (roundTo digits x.magnitude), double_nonneg (roundTo_nonneg x.nonneg)⟩

end Float

end Py
