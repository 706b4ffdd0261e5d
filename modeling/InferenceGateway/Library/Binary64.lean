import Mathlib.Data.Int.Log
import Mathlib.Data.Nat.Sqrt
import Mathlib.Data.Rat.Floor
import Mathlib.Algebra.Order.Field.Power
import Mathlib.Tactic.Linarith
import Mathlib.Tactic.NormNum

/-!
# Rounding to binary64

The value a double-precision operation returns for an exact rational result:
the nearest multiple of the unit in the last place, ties to even.  Results stay
below the overflow threshold here, so infinities do not occur.
-/

namespace InferenceGateway.Library

/-- Nearest integer, ties to even. -/
def roundEven (x : ℚ) : ℤ :=
  if Int.fract x < 1 / 2 then ⌊x⌋
  else if 1 / 2 < Int.fract x then ⌊x⌋ + 1
  else if ⌊x⌋ % 2 = 0 then ⌊x⌋ else ⌊x⌋ + 1

namespace Binary64

/-- The exponent of the unit in the last place: 53 significant bits, gradual underflow. -/
def exponent (x : ℚ) : ℤ := max (Int.log 2 |x| - 52) (-1074)

def ulp (x : ℚ) : ℚ := 2 ^ exponent x

/-- The double nearest to a rational. -/
def nearest (x : ℚ) : ℚ := if x = 0 then 0 else roundEven (x / ulp x) * ulp x

/-- The double nearest to the square root of a rational. -/
def sqrt (x : ℚ) : ℚ :=
  if x ≤ 0 then 0
  else
    let unit : ℚ := 2 ^ max (Int.log 2 x / 2 - 52) (-1074)
    let scaled := x / unit ^ 2
    let below := Nat.sqrt ⌊scaled⌋.toNat
    let middle : ℚ := (below + 1 / 2) ^ 2
    let nearest :=
      if scaled < middle then below
      else if middle < scaled then below + 1
      else if below % 2 = 0 then below else below + 1
    nearest * unit

end Binary64

theorem roundEven_le {x : ℚ} {n : ℤ} (below : x ≤ n) : roundEven x ≤ n := by
  have floor_le : ⌊x⌋ ≤ n := by exact_mod_cast (Int.floor_le x).trans below
  have fract_eq := Int.floor_add_fract x
  have strict : 1 / 2 ≤ Int.fract x → ⌊x⌋ + 1 ≤ n := by
    intro half
    have : (⌊x⌋ : ℚ) < n := by linarith
    exact_mod_cast this
  unfold roundEven
  split_ifs with low high even
  · exact floor_le
  · exact strict high.le
  · exact floor_le
  · exact strict (not_lt.mp low)

theorem le_roundEven {x : ℚ} {n : ℤ} (above : n ≤ x) : n ≤ roundEven x := by
  have le_floor : n ≤ ⌊x⌋ := Int.le_floor.mpr above
  unfold roundEven
  split_ifs <;> omega

namespace Binary64

theorem ulp_pos (x : ℚ) : 0 < ulp x := zpow_pos (by norm_num) _

@[simp] theorem nearest_zero : nearest 0 = 0 := if_pos rfl

/-- Below `2 ^ 53` the unit in the last place divides every integer. -/
theorem intCast_on_grid {x : ℚ} (nonzero : x ≠ 0) (small : |x| < 2 ^ 53) (n : ℤ) :
    ∃ k : ℤ, (n : ℚ) = k * ulp x := by
  have log_lt : Int.log 2 |x| < 53 :=
    (Int.lt_zpow_iff_log_lt (by norm_num) (abs_pos.mpr nonzero)).mp (by exact_mod_cast small)
  have nonpos : exponent x ≤ 0 := max_le (by omega) (by norm_num)
  obtain ⟨m, exponent_eq⟩ : ∃ m : ℕ, exponent x = -m :=
    ⟨(-exponent x).toNat, by omega⟩
  refine ⟨n * 2 ^ m, ?_⟩
  rw [ulp, exponent_eq, zpow_neg, zpow_natCast]
  push_cast
  rw [mul_assoc, mul_inv_cancel₀ (by positivity), mul_one]

/-- Rounding never crosses an integer. -/
theorem nearest_le_intCast {x : ℚ} {n : ℤ} (small : |x| < 2 ^ 53) (below : x ≤ n) :
    nearest x ≤ n := by
  by_cases zero : x = 0
  · simpa [zero] using below
  obtain ⟨k, on_grid⟩ := intCast_on_grid zero small n
  rw [nearest, if_neg zero, on_grid]
  apply mul_le_mul_of_nonneg_right _ (ulp_pos x).le
  have : x / ulp x ≤ k := (div_le_iff₀ (ulp_pos x)).mpr (on_grid ▸ below)
  exact_mod_cast roundEven_le this

theorem intCast_le_nearest {x : ℚ} {n : ℤ} (small : |x| < 2 ^ 53) (above : n ≤ x) :
    n ≤ nearest x := by
  by_cases zero : x = 0
  · simpa [zero] using above
  obtain ⟨k, on_grid⟩ := intCast_on_grid zero small n
  rw [nearest, if_neg zero, on_grid]
  apply mul_le_mul_of_nonneg_right _ (ulp_pos x).le
  have : k ≤ x / ulp x := (le_div_iff₀ (ulp_pos x)).mpr (on_grid ▸ above)
  exact_mod_cast le_roundEven this

theorem nearest_intCast {n : ℤ} (small : |n| < 2 ^ 53) : nearest n = n := by
  have small' : |(n : ℚ)| < 2 ^ 53 := by exact_mod_cast small
  exact le_antisymm (nearest_le_intCast small' le_rfl) (intCast_le_nearest small' le_rfl)

end Binary64

end InferenceGateway.Library
