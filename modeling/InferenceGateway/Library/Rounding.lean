import InferenceGateway.Library.Binary64
import Mathlib.Algebra.Order.Field.Basic
import Mathlib.Tactic.FieldSimp
import Mathlib.Tactic.Positivity
import Mathlib.Tactic.Ring

/-!
# Counting roundings

Two positive numbers are close when they agree up to a number of roundings.
Products, quotients and square roots of close numbers are close again, with
the roundings added up, and so is what binary64 makes of them.
-/

namespace InferenceGateway.Library

theorem abs_roundEven_sub_le (x : ℚ) : |(roundEven x : ℚ) - x| ≤ 1 / 2 := by
  have split := Int.floor_add_fract x
  have below := Int.fract_nonneg x
  have above := Int.fract_lt_one x
  rw [abs_le]
  unfold roundEven
  split_ifs with low high even
  · constructor <;> linarith
  · push_cast
    constructor <;> linarith
  · constructor <;> linarith
  · push_cast
    constructor <;> linarith

namespace Binary64

/-- What a rounding changes a normal number by, as a factor. -/
def slack : ℚ := 1 + 1 / 2 ^ 52

theorem one_le_slack : 1 ≤ slack := by norm_num [slack]

theorem slack_pos : 0 < slack := by norm_num [slack]

theorem slack_pow_pos (k : ℕ) : 0 < slack ^ k := pow_pos slack_pos k

/-- The positive numbers agree up to `k` roundings. -/
structure Close (k : ℕ) (x y : ℚ) : Prop where
  pos : 0 < x
  above : x ≤ y * slack ^ k
  below : y ≤ x * slack ^ k

namespace Close

variable {j k : ℕ} {x y z u v : ℚ}

theorem refl (positive : 0 < x) : Close 0 x x := ⟨positive, by simp, by simp⟩

theorem pos_right (close : Close k x y) : 0 < y :=
  pos_of_mul_pos_left (close.pos.trans_le close.above) (slack_pow_pos k).le

theorem symm (close : Close k x y) : Close k y x := ⟨close.pos_right, close.below, close.above⟩

theorem trans (first : Close j x y) (second : Close k y z) : Close (j + k) x z := by
  refine ⟨first.pos, ?_, ?_⟩
  · calc x ≤ y * slack ^ j := first.above
      _ ≤ z * slack ^ k * slack ^ j := mul_le_mul_of_nonneg_right second.above (slack_pow_pos j).le
      _ = z * slack ^ (j + k) := by ring
  · calc z ≤ y * slack ^ k := second.below
      _ ≤ x * slack ^ j * slack ^ k := mul_le_mul_of_nonneg_right first.below (slack_pow_pos k).le
      _ = x * slack ^ (j + k) := by ring

theorem mono (close : Close j x y) (more : j ≤ k) : Close k x y := by
  have larger : slack ^ j ≤ slack ^ k := pow_le_pow_right₀ one_le_slack more
  refine ⟨close.pos, close.above.trans ?_, close.below.trans ?_⟩
  · exact mul_le_mul_of_nonneg_left larger close.pos_right.le
  · exact mul_le_mul_of_nonneg_left larger close.pos.le

theorem mul (first : Close j x y) (second : Close k u v) : Close (j + k) (x * u) (y * v) := by
  have y_pos := first.pos_right
  have v_pos := second.pos_right
  have positive := first.pos
  have positive' := second.pos
  have scaled : 0 < slack ^ j := slack_pow_pos j
  refine ⟨mul_pos positive positive', ?_, ?_⟩
  · calc x * u ≤ y * slack ^ j * (v * slack ^ k) :=
          mul_le_mul first.above second.above positive'.le (by positivity)
      _ = y * v * slack ^ (j + k) := by ring
  · calc y * v ≤ x * slack ^ j * (u * slack ^ k) :=
          mul_le_mul first.below second.below v_pos.le (by positivity)
      _ = x * u * slack ^ (j + k) := by ring

theorem inv (close : Close k x y) : Close k x⁻¹ y⁻¹ := by
  have positive := close.pos
  have positive' := close.pos_right
  refine ⟨inv_pos.mpr positive, ?_, ?_⟩
  · rw [inv_mul_eq_div, le_div_iff₀ positive', inv_mul_eq_div, div_le_iff₀ positive, mul_comm]
    exact close.below
  · rw [inv_mul_eq_div, le_div_iff₀ positive, inv_mul_eq_div, div_le_iff₀ positive', mul_comm]
    exact close.above

theorem div (first : Close j x y) (second : Close k u v) : Close (j + k) (x / u) (y / v) := by
  rw [div_eq_mul_inv, div_eq_mul_inv]
  exact first.mul second.inv

end Close

/-! ### One rounding -/

theorem le_log {x : ℚ} {e : ℤ} (large : 2 ^ e ≤ x) : e ≤ Int.log 2 x := by
  have positive : 0 < x := lt_of_lt_of_le (zpow_pos (by norm_num) e) large
  exact (Int.zpow_le_iff_le_log (by norm_num) positive).mp (by exact_mod_cast large)

theorem zpow_log_le {x : ℚ} (positive : 0 < x) : (2 : ℚ) ^ Int.log 2 x ≤ x := by
  exact_mod_cast Int.zpow_log_le_self (b := 2) (by norm_num) positive

/-- The unit in the last place of a normal number. -/
theorem ulp_le {x : ℚ} (large : 2 ^ (-1022 : ℤ) ≤ x) : ulp x ≤ x / 2 ^ 52 := by
  have positive : 0 < x := lt_of_lt_of_le (by positivity) large
  have log := le_log large
  have exponent_eq : exponent x = Int.log 2 x - 52 := by
    rw [exponent, abs_of_pos positive]
    exact max_eq_left (by omega)
  rw [ulp, exponent_eq, zpow_sub₀ (by norm_num)]
  exact div_le_div_of_nonneg_right (zpow_log_le positive) (by norm_num)

theorem abs_nearest_sub_le {x : ℚ} (large : 2 ^ (-1022 : ℤ) ≤ x) :
    |nearest x - x| ≤ x / 2 ^ 53 := by
  have positive : 0 < x := lt_of_lt_of_le (by positivity) large
  have unit := ulp_pos x
  have split : nearest x - x = (roundEven (x / ulp x) - x / ulp x) * ulp x := by
    rw [nearest, if_neg positive.ne', sub_mul, div_mul_cancel₀ _ unit.ne']
  rw [split, abs_mul, abs_of_pos unit]
  calc |(roundEven (x / ulp x) : ℚ) - x / ulp x| * ulp x
      ≤ 1 / 2 * ulp x := mul_le_mul_of_nonneg_right (abs_roundEven_sub_le _) unit.le
    _ ≤ 1 / 2 * (x / 2 ^ 52) := mul_le_mul_of_nonneg_left (ulp_le large) (by norm_num)
    _ = x / 2 ^ 53 := by ring

/-- Rounding a normal number is one rounding. -/
theorem close_nearest {x : ℚ} (large : 2 ^ (-1022 : ℤ) ≤ x) : Close 1 (nearest x) x := by
  have positive : 0 < x := lt_of_lt_of_le (by positivity) large
  obtain ⟨lower, upper⟩ := abs_le.mp (abs_nearest_sub_le large)
  refine ⟨?_, ?_, ?_⟩
  · linarith
  · rw [pow_one, slack]
    linarith
  · rw [pow_one, slack]
    linarith

theorem slack_pow_le {k : ℕ} (few : k ≤ 30) : slack ^ k ≤ 2 :=
  (pow_le_pow_right₀ one_le_slack few).trans (by norm_num [slack])

/-- Rounding a result that is close to a value far from underflow. -/
theorem Close.nearest {k : ℕ} {x y : ℚ} (close : Close k x y) (few : k ≤ 30)
    (large : 2 ^ (-1000 : ℤ) ≤ y) : Close (k + 1) (nearest x) y := by
  rw [Nat.add_comm]
  refine (close_nearest ?_).trans close
  have doubled : y ≤ x * 2 :=
    close.below.trans (mul_le_mul_of_nonneg_left (slack_pow_le few) close.pos.le)
  calc (2 : ℚ) ^ (-1022 : ℤ) ≤ 2 ^ (-1000 - 1 : ℤ) :=
        zpow_le_zpow_right₀ (by norm_num) (by norm_num)
    _ = 2 ^ (-1000 : ℤ) / 2 := by rw [zpow_sub_one₀ (by norm_num), div_eq_mul_inv]
    _ ≤ x := by linarith

/-! ### Square roots -/

/-- The integer square root of a large number, and its successor. -/
theorem sqrt_bounds {scaled : ℚ} (large : 2 ^ 104 ≤ scaled) :
    ∃ below : ℕ, below = Nat.sqrt ⌊scaled⌋.toNat ∧ 2 ^ 52 ≤ below ∧
      (below : ℚ) ^ 2 ≤ scaled ∧ scaled ≤ ((below : ℚ) + 1) ^ 2 := by
  have floor_large : (2 : ℤ) ^ 104 ≤ ⌊scaled⌋ := Int.le_floor.mpr (by exact_mod_cast large)
  obtain ⟨n, floor_eq⟩ : ∃ n : ℕ, ⌊scaled⌋ = n := ⟨⌊scaled⌋.toNat, by omega⟩
  have n_large : 2 ^ 104 ≤ n := by exact_mod_cast floor_eq ▸ floor_large
  have floor_le : (n : ℚ) ≤ scaled := by
    have le := Int.floor_le scaled
    rwa [floor_eq, Int.cast_natCast] at le
  have lt_floor : scaled < n + 1 := by
    have lt := Int.lt_floor_add_one scaled
    rwa [floor_eq, Int.cast_natCast] at lt
  rw [floor_eq, Int.toNat_natCast]
  refine ⟨_, rfl, ?_, ?_, ?_⟩
  · exact Nat.le_sqrt'.mpr (by omega)
  · have square : ((Nat.sqrt n ^ 2 : ℕ) : ℚ) ≤ n := by exact_mod_cast Nat.sqrt_le' n
    push_cast at square
    exact square.trans floor_le
  · have square : ((n + 1 : ℕ) : ℚ) ≤ ((Nat.sqrt n + 1) ^ 2 : ℕ) := by
      exact_mod_cast Nat.succ_le_of_lt (Nat.lt_succ_sqrt' n)
    push_cast at square
    linarith

theorem sqrt_nonneg (x : ℚ) : 0 ≤ sqrt x := by
  unfold sqrt
  split_ifs <;> positivity

/-- The square of a rounded square root is two roundings off. -/
theorem close_sqrt {x : ℚ} (large : 2 ^ (-1022 : ℤ) ≤ x) : Close 2 (sqrt x ^ 2) x := by
  have positive : 0 < x := lt_of_lt_of_le (by positivity) large
  have log := le_log large
  set half := Int.log 2 x / 2 with half_eq
  have unit_eq : max (half - 52) (-1074) = half - 52 := max_eq_left (by omega)
  set unit : ℚ := 2 ^ (half - 52) with unit_def
  have unit_pos : 0 < unit := zpow_pos (by norm_num) _
  have scaled_large : 2 ^ 104 ≤ x / unit ^ 2 := by
    rw [le_div_iff₀ (by positivity)]
    calc (2 : ℚ) ^ 104 * unit ^ 2 = 2 ^ (2 * half) := by
          rw [unit_def, ← zpow_natCast, ← zpow_natCast, ← zpow_mul, ← zpow_add₀ (by norm_num)]
          congr 1
          push_cast
          ring
      _ ≤ 2 ^ Int.log 2 x := zpow_le_zpow_right₀ (by norm_num) (by omega)
      _ ≤ x := zpow_log_le positive
  obtain ⟨below, below_eq, below_large, under, beyond⟩ := sqrt_bounds scaled_large
  obtain ⟨root, root_eq, least, most⟩ : ∃ root : ℚ, sqrt x = root * unit ∧
      (below : ℚ) ≤ root ∧ root ≤ below + 1 := by
    rw [sqrt, if_neg (not_le.mpr positive)]
    simp only [← half_eq, unit_eq, ← unit_def, ← below_eq]
    refine ⟨_, rfl, ?_, ?_⟩
    · split_ifs <;> push_cast <;> linarith
    · split_ifs <;> push_cast <;> linarith
  have below_large' : (2 : ℚ) ^ 52 ≤ below := by exact_mod_cast below_large
  have step : (below : ℚ) + 1 ≤ below * slack := by
    rw [slack]
    linarith
  have below_pos : (0 : ℚ) < below := by linarith [below_large']
  have whole : x = x / unit ^ 2 * unit ^ 2 := by field_simp
  have squares : ((below : ℚ) + 1) ^ 2 ≤ below ^ 2 * slack ^ 2 := by
    rw [← mul_pow]
    exact pow_le_pow_left₀ (by positivity) step 2
  have root_pos : 0 < root := below_pos.trans_le least
  rw [root_eq, mul_pow]
  refine ⟨by positivity, ?_, ?_⟩
  · calc root ^ 2 * unit ^ 2 ≤ ((below : ℚ) + 1) ^ 2 * unit ^ 2 := by gcongr
      _ ≤ below ^ 2 * slack ^ 2 * unit ^ 2 := by gcongr
      _ ≤ x / unit ^ 2 * slack ^ 2 * unit ^ 2 := by gcongr
      _ = x * slack ^ 2 := by field_simp
  · calc x = x / unit ^ 2 * unit ^ 2 := whole
      _ ≤ ((below : ℚ) + 1) ^ 2 * unit ^ 2 := by gcongr
      _ ≤ below ^ 2 * slack ^ 2 * unit ^ 2 := by gcongr
      _ ≤ root ^ 2 * slack ^ 2 * unit ^ 2 := by gcongr
      _ = root ^ 2 * unit ^ 2 * slack ^ 2 := by ring

end Binary64

end InferenceGateway.Library
