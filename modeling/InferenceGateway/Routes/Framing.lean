import InferenceGateway.Domain.DerivedFrames
import InferenceGateway.Library.Rounding
import InferenceGateway.Routes.Preparation

/-!
# Derived frames in double precision

`fitSize` with the numbers the gateway computes with.  A dozen roundings are
far below the gap between the pixel budget and the next frame of whole
macroblocks, for every image a header can describe.
-/

namespace InferenceGateway

open Library Binary64

/-! ### The scale -/

section Scale

variable {width height : Nat} {resolution : Resolution}

/-- A side a header can spell. -/
def HeaderSide (length : Nat) : Prop := 0 < length ∧ length < 2 ^ 32

theorem HeaderSide.max (wide : HeaderSide width) (high : HeaderSide height) : HeaderSide (max width height) :=
  ⟨lt_max_of_lt_left wide.1, max_lt wide.2 high.2⟩

theorem one_le_cast {n : Nat} (positive : 0 < n) : (1 : ℚ) ≤ n := by exact_mod_cast positive

theorem tiny_le_one : (2 : ℚ) ^ (-1000 : ℤ) ≤ 1 := zpow_le_one_of_nonpos₀ (by norm_num) (by norm_num)

theorem close_ofNat {n : Nat} (positive : 0 < n) : Close 1 (Arithmetic.doubles.ofNat n) n :=
  Close.nearest (.refl (by exact_mod_cast positive)) (by decide)
    (tiny_le_one.trans (one_le_cast positive))

/-- The quotient under the square root is never near underflow. -/
theorem tiny_le_quotient (wide : HeaderSide width) (high : HeaderSide height) (resolution : Resolution) :
    (2 : ℚ) ^ (-66 : ℤ) ≤ pixelBudget resolution / (width * height) := by
  have w := one_le_cast wide.1
  have h := one_le_cast high.1
  have w_le : (width : ℚ) ≤ 2 ^ 32 := by exact_mod_cast wide.2.le
  have h_le : (height : ℚ) ≤ 2 ^ 32 := by exact_mod_cast high.2.le
  have budget : (1 : ℚ) ≤ pixelBudget resolution := by cases resolution <;> norm_num [pixelBudget]
  rw [le_div_iff₀ (by positivity)]
  calc (2 : ℚ) ^ (-66 : ℤ) * (width * height) ≤ 2 ^ (-66 : ℤ) * (2 ^ 32 * 2 ^ 32) := by gcongr
    _ ≤ 1 := by norm_num
    _ ≤ pixelBudget resolution := budget

/-- What the scale does to the sides, up to roundings. -/
structure FitsRounded (width height : Nat) (resolution : Resolution) (scale : ℚ) : Prop where
  large : (2 : ℚ) ^ (-70 : ℤ) ≤ scale
  area : width * scale * (height * scale) ≤ pixelBudget resolution * slack ^ 23
  longest : max width height * scale ≤ maxDimension resolution * slack ^ 5
  /-- The longest side is at the limit, or the budget is used up. -/
  full : (maxDimension resolution : ℚ) ≤ max width height * scale * slack ^ 5 ∨
    (pixelBudget resolution : ℚ) ≤ width * scale * (height * scale) * slack ^ 7

/-- The scale that fills the budget. -/
def filling (width height : Nat) (resolution : Resolution) : ℚ :=
  Binary64.sqrt (nearest (nearest (pixelBudget resolution) /
    nearest (nearest width * nearest height)))

/-- The square of the filling scale, seven roundings off. -/
theorem close_filling (wide : HeaderSide width) (high : HeaderSide height)
    (resolution : Resolution) :
    Close 7 (filling width height resolution ^ 2) (pixelBudget resolution / (width * height)) := by
  have w := one_le_cast wide.1
  have h := one_le_cast high.1
  have budget : 0 < pixelBudget resolution := by cases resolution <;> decide
  have tiny := tiny_le_quotient wide high resolution
  have area : Close 3 (nearest (nearest width * nearest height)) ((width : ℚ) * height) :=
    ((close_ofNat wide.1).mul (close_ofNat high.1)).nearest (by decide)
      (tiny_le_one.trans (one_le_mul_of_one_le_of_one_le w h))
  have quotient : Close 5 (nearest (nearest (pixelBudget resolution) /
      nearest (nearest width * nearest height))) (pixelBudget resolution / (width * height)) :=
    ((close_ofNat budget).div area).nearest (by decide)
      ((zpow_le_zpow_right₀ (by norm_num) (by norm_num)).trans tiny)
  refine (close_sqrt ?_).trans quotient
  have doubled := quotient.below.trans
    (mul_le_mul_of_nonneg_left (slack_pow_le (by decide)) quotient.pos.le)
  calc (2 : ℚ) ^ (-1022 : ℤ) ≤ 2 ^ (-66 - 1 : ℤ) :=
        zpow_le_zpow_right₀ (by norm_num) (by norm_num)
    _ = 2 ^ (-66 : ℤ) / 2 := by rw [zpow_sub_one₀ (by norm_num), div_eq_mul_inv]
    _ ≤ _ := by linarith

theorem filling_large (wide : HeaderSide width) (high : HeaderSide height)
    (resolution : Resolution) : (2 : ℚ) ^ (-70 : ℤ) ≤ filling width height resolution := by
  have close := close_filling wide high resolution
  have tiny := tiny_le_quotient wide high resolution
  have nonneg : 0 ≤ filling width height resolution := sqrt_nonneg _
  have doubled := close.below.trans
    (mul_le_mul_of_nonneg_left (slack_pow_le (by decide)) close.pos.le)
  refine le_of_sq_le_sq ?_ nonneg
  have square : ((2 : ℚ) ^ (-70 : ℤ)) ^ 2 ≤ 2 ^ (-66 : ℤ) / 2 := by norm_num
  refine square.trans ?_
  rw [div_le_iff₀ (by norm_num)]
  exact tiny.trans doubled

theorem filling_small (wide : HeaderSide width) (high : HeaderSide height)
    (resolution : Resolution) : filling width height resolution ≤ 2 ^ 11 := by
  have close := close_filling wide high resolution
  have area : (1 : ℚ) ≤ width * height :=
    one_le_mul_of_one_le_of_one_le (one_le_cast wide.1) (one_le_cast high.1)
  have budget : (pixelBudget resolution : ℚ) ≤ 2 ^ 20 := by
    cases resolution <;> norm_num [pixelBudget]
  have nonneg : (0 : ℚ) ≤ pixelBudget resolution := Nat.cast_nonneg _
  refine le_of_sq_le_sq ?_ (by norm_num)
  calc filling width height resolution ^ 2
      ≤ pixelBudget resolution / (width * height) * slack ^ 7 := close.above
    _ ≤ pixelBudget resolution * 2 :=
      mul_le_mul (div_le_self nonneg area) (slack_pow_le (by decide)) (slack_pow_pos 7).le nonneg
    _ ≤ 2 ^ 20 * 2 := mul_le_mul_of_nonneg_right budget (by norm_num)
    _ ≤ (2 ^ 11) ^ 2 := by norm_num

/-- The scale is the filling one, or that one pulled back to the limit. -/
theorem scale_eq (width height : Nat) (resolution : Resolution) :
    Arithmetic.doubles.scale width height resolution =
      if nearest (maxDimension resolution) <
          nearest (nearest (max width height : Nat) * filling width height resolution) then
        nearest (filling width height resolution * nearest (nearest (maxDimension resolution) /
          nearest (nearest (max width height : Nat) * filling width height resolution)))
      else filling width height resolution := by
  simp only [Arithmetic.scale, Arithmetic.doubles, decide_eq_true_eq]
  rfl

theorem fitsRounded_scale (wide : HeaderSide width) (high : HeaderSide height)
    (resolution : Resolution) :
    FitsRounded width height resolution (Arithmetic.doubles.scale width height resolution) := by
  have w : (0 : ℚ) < width := Nat.cast_pos.mpr wide.1
  have h : (0 : ℚ) < height := Nat.cast_pos.mpr high.1
  have side := wide.max high
  have m := one_le_cast side.1
  have m_le : ((max width height : Nat) : ℚ) ≤ 2 ^ 32 := by exact_mod_cast side.2.le
  have limit : 0 < maxDimension resolution := by cases resolution <;> decide
  have limit_cast := one_le_cast limit
  have close := close_filling wide high resolution
  have s_large := filling_large wide high resolution
  have s_small := filling_small wide high resolution
  rw [scale_eq]
  set s := filling width height resolution
  have s_pos : 0 < s := lt_of_lt_of_le (by positivity) s_large
  set M : ℚ := ((max width height : Nat) : ℚ)
  have M_pos : 0 < M := by linarith
  have whole : (width : ℚ) * s * (height * s) = width * height * s ^ 2 := by ring
  have area : width * s * (height * s) ≤ pixelBudget resolution * slack ^ 7 := by
    calc width * s * (height * s) = width * height * s ^ 2 := whole
      _ ≤ width * height * (pixelBudget resolution / (width * height) * slack ^ 7) :=
        mul_le_mul_of_nonneg_left close.above (by positivity)
      _ = pixelBudget resolution * slack ^ 7 := by field_simp
  have longest : Close 2 (nearest (nearest M * s)) (M * s) := by
    refine ((close_ofNat side.1).mul (.refl s_pos)).nearest (by decide) ?_
    calc (2 : ℚ) ^ (-1000 : ℤ) ≤ 1 * 2 ^ (-70 : ℤ) := by
          rw [one_mul]
          exact zpow_le_zpow_right₀ (by norm_num) (by norm_num)
      _ ≤ M * s := mul_le_mul m s_large (by positivity) M_pos.le
  have limits : Close 1 (nearest (maxDimension resolution)) (maxDimension resolution) :=
    close_ofNat limit
  split
  · rename_i long
    have ratio : (maxDimension resolution / (M * s) : ℚ) * s = maxDimension resolution / M := by
      field_simp
    have tiny : (2 : ℚ) ^ (-32 : ℤ) ≤ maxDimension resolution / M := by
      rw [le_div_iff₀ M_pos]
      calc (2 : ℚ) ^ (-32 : ℤ) * M ≤ 2 ^ (-32 : ℤ) * 2 ^ 32 :=
            mul_le_mul_of_nonneg_left m_le (by positivity)
        _ ≤ maxDimension resolution := by
          norm_num
          exact_mod_cast limit
    have ratio_large : (2 : ℚ) ^ (-1000 : ℤ) ≤ maxDimension resolution / (M * s) := by
      rw [le_div_iff₀ (by positivity)]
      calc (2 : ℚ) ^ (-1000 : ℤ) * (M * s) ≤ 2 ^ (-43 : ℤ) * (2 ^ 32 * 2 ^ 11) := by
            have exponents : (2 : ℚ) ^ (-1000 : ℤ) ≤ 2 ^ (-43 : ℤ) :=
              zpow_le_zpow_right₀ (by norm_num) (by norm_num)
            gcongr
        _ = 1 := by norm_num
        _ ≤ maxDimension resolution := limit_cast
    have pulled : Close 5 (nearest (s * nearest (nearest (maxDimension resolution) /
        nearest (nearest M * s)))) (maxDimension resolution / M) := by
      have pull := (limits.div longest).nearest (by decide) ratio_large
      have product := (Close.refl s_pos).mul pull
      rw [mul_comm s (_ / _), ratio] at product
      exact product.nearest (by decide)
        ((zpow_le_zpow_right₀ (by norm_num) (by norm_num)).trans tiny)
    set pulled_scale := nearest (s * nearest (nearest (maxDimension resolution) /
      nearest (nearest M * s)))
    have scale_pos := pulled.pos
    have back : M * (maxDimension resolution / M) = maxDimension resolution := by field_simp
    -- the pulled scale is at most the filling one
    have shrunk : (maxDimension resolution / M : ℚ) ≤ s * slack ^ 3 := by
      rw [div_le_iff₀ M_pos]
      calc (maxDimension resolution : ℚ) ≤ nearest (maxDimension resolution) * slack ^ 1 :=
            limits.below
        _ ≤ nearest (nearest M * s) * slack ^ 1 :=
          mul_le_mul_of_nonneg_right long.le (slack_pow_pos 1).le
        _ ≤ M * s * slack ^ 2 * slack ^ 1 :=
          mul_le_mul_of_nonneg_right longest.above (slack_pow_pos 1).le
        _ = s * slack ^ 3 * M := by ring
    have smaller : pulled_scale ≤ s * slack ^ 8 := by
      calc pulled_scale ≤ maxDimension resolution / M * slack ^ 5 := pulled.above
        _ ≤ s * slack ^ 3 * slack ^ 5 := mul_le_mul_of_nonneg_right shrunk (slack_pow_pos 5).le
        _ = s * slack ^ 8 := by ring
    refine ⟨?_, ?_, ?_, .inl ?_⟩
    · have doubled := pulled.below.trans
        (mul_le_mul_of_nonneg_left (slack_pow_le (by decide)) pulled.pos.le)
      calc (2 : ℚ) ^ (-70 : ℤ) ≤ 2 ^ (-32 : ℤ) / 2 := by norm_num
        _ ≤ pulled_scale := by
          rw [div_le_iff₀ (by norm_num)]
          exact tiny.trans doubled
    · calc width * pulled_scale * (height * pulled_scale)
          ≤ width * (s * slack ^ 8) * (height * (s * slack ^ 8)) := by gcongr
        _ = width * s * (height * s) * slack ^ 16 := by ring
        _ ≤ pixelBudget resolution * slack ^ 7 * slack ^ 16 :=
          mul_le_mul_of_nonneg_right area (slack_pow_pos 16).le
        _ = pixelBudget resolution * slack ^ 23 := by ring
    · calc M * pulled_scale ≤ M * (maxDimension resolution / M * slack ^ 5) :=
            mul_le_mul_of_nonneg_left pulled.above M_pos.le
        _ = maxDimension resolution * slack ^ 5 := by rw [← mul_assoc, back]
    · calc (maxDimension resolution : ℚ) = M * (maxDimension resolution / M) := back.symm
        _ ≤ M * (pulled_scale * slack ^ 5) := mul_le_mul_of_nonneg_left pulled.below M_pos.le
        _ = M * pulled_scale * slack ^ 5 := by ring
  · rename_i short
    refine ⟨s_large, ?_, ?_, .inr ?_⟩
    · refine area.trans (mul_le_mul_of_nonneg_left ?_ (Nat.cast_nonneg _))
      exact pow_le_pow_right₀ one_le_slack (by decide)
    · calc M * s ≤ nearest (nearest M * s) * slack ^ 2 := longest.below
        _ ≤ nearest (maxDimension resolution) * slack ^ 2 :=
          mul_le_mul_of_nonneg_right (not_lt.mp short) (slack_pow_pos 2).le
        _ ≤ maxDimension resolution * slack ^ 1 * slack ^ 2 :=
          mul_le_mul_of_nonneg_right limits.above (slack_pow_pos 2).le
        _ = maxDimension resolution * slack ^ 3 := by ring
        _ ≤ maxDimension resolution * slack ^ 5 :=
          mul_le_mul_of_nonneg_left (pow_le_pow_right₀ one_le_slack (by decide)) (Nat.cast_nonneg _)
    · calc (pixelBudget resolution : ℚ)
          = width * height * (pixelBudget resolution / (width * height)) := by field_simp
        _ ≤ width * height * (s ^ 2 * slack ^ 7) :=
          mul_le_mul_of_nonneg_left close.below (by positivity)
        _ = width * s * (height * s) * slack ^ 7 := by ring

/-! ### The sides -/

/-- A scaled side, before it is rounded to pixels. -/
theorem close_side {length : Nat} (side : HeaderSide length) {scale : ℚ}
    (large : (2 : ℚ) ^ (-70 : ℤ) ≤ scale) :
    Close 2 (nearest (nearest length * scale)) (length * scale) := by
  have positive : 0 < scale := lt_of_lt_of_le (by positivity) large
  refine ((close_ofNat side.1).mul (.refl positive)).nearest (by decide) ?_
  calc (2 : ℚ) ^ (-1000 : ℤ) ≤ 1 * 2 ^ (-70 : ℤ) := by
        rw [one_mul]
        exact zpow_le_zpow_right₀ (by norm_num) (by norm_num)
    _ ≤ length * scale :=
      mul_le_mul (one_le_cast side.1) large (by positivity) (Nat.cast_nonneg _)

theorem side_eq (length : Nat) (scale : ℚ) :
    Arithmetic.doubles.side length scale =
      align16 (mathRound (nearest (nearest length * scale))) := rfl

/-- A side above the minimum exceeds its exact value by half a pixel, and two roundings. -/
theorem near_side {length : Nat} (side : HeaderSide length) {scale : ℚ}
    (scale_large : (2 : ℚ) ^ (-70 : ℤ) ≤ scale)
    (large : Arithmetic.doubles.side length scale ≠ 16) :
    (Arithmetic.doubles.side length scale : ℚ) - 1 / 2 ≤ length * scale * slack ^ 2 := by
  rw [side_eq] at *
  have aligned := align16_le_self large
  have floor : ((mathRound (nearest (nearest length * scale)) : ℤ) : ℚ) ≤
      nearest (nearest length * scale) + 1 / 2 := Int.floor_le _
  have cast : (align16 (mathRound (nearest (nearest length * scale))) : ℚ) ≤
      (mathRound (nearest (nearest length * scale)) : ℤ) := by exact_mod_cast aligned
  have close := (close_side side scale_large).above
  linarith

/-- A side that is above a multiple of 16 by less than half a pixel too little. -/
theorem le_side {length bound : Nat} (side : HeaderSide length) {scale : ℚ}
    (scale_large : (2 : ℚ) ^ (-70 : ℤ) ≤ scale) (multiple : 16 ∣ bound)
    (above : ((bound : ℚ) - 1 / 2) * slack ^ 2 ≤ length * scale) :
    bound ≤ Arithmetic.doubles.side length scale := by
  apply le_align16_of_le multiple
  have close := above.trans (close_side side scale_large).below
  have pixels := le_of_mul_le_mul_right close (slack_pow_pos 2)
  apply Int.le_floor.mpr
  push_cast
  change (bound : ℚ) ≤ nearest (nearest length * scale) + 1 / 2
  linarith

namespace FitsRounded

variable {scale : ℚ}

theorem swap (fits : FitsRounded width height resolution scale) :
    FitsRounded height width resolution scale where
  large := fits.large
  area := by rw [mul_comm]; exact fits.area
  longest := by rw [max_comm]; exact fits.longest
  full := by rw [max_comm, mul_comm (height * scale)]; exact fits.full

theorem pos (fits : FitsRounded width height resolution scale) : 0 < scale :=
  lt_of_lt_of_le (by positivity) fits.large

theorem side_le (fits : FitsRounded width height resolution scale) (wide : HeaderSide width) :
    Arithmetic.doubles.side width scale ≤ maxDimension resolution := by
  apply align16_le
  · cases resolution <;> decide
  · have shorter : (width : ℚ) * scale ≤ (max width height : Nat) * scale :=
      mul_le_mul_of_nonneg_right (Nat.cast_le.mpr (le_max_left width height)) fits.pos.le
    have pixels : nearest (nearest width * scale) < maxDimension resolution + 1 / 2 := by
      calc nearest (nearest width * scale)
          ≤ width * scale * slack ^ 2 := (close_side wide fits.large).above
        _ ≤ maxDimension resolution * slack ^ 5 * slack ^ 2 :=
          mul_le_mul_of_nonneg_right (shorter.trans fits.longest) (slack_pow_pos 2).le
        _ < maxDimension resolution + 1 / 2 := by
          cases resolution <;> norm_num [maxDimension, slack]
    change mathRound (nearest (nearest width * scale)) ≤ _
    apply Int.lt_add_one_iff.mp
    apply Int.floor_lt.mpr
    push_cast
    linarith

/-- Roundings do not close the gap above the budget. -/
theorem area_le (fits : FitsRounded width height resolution scale) (wide : HeaderSide width)
    (high : HeaderSide height) :
    Arithmetic.doubles.side width scale * Arithmetic.doubles.side height scale ≤
      pixelBudget resolution := by
  have short := fits.side_le wide
  have short' := fits.swap.side_le high
  have slim : 16 * maxDimension resolution ≤ pixelBudget resolution := by
    cases resolution <;> decide
  by_cases low : Arithmetic.doubles.side width scale = 16
  · rw [low]
    exact (Nat.mul_le_mul_left 16 short').trans slim
  by_cases flat : Arithmetic.doubles.side height scale = 16
  · rw [flat, mul_comm]
    exact (Nat.mul_le_mul_left 16 short).trans slim
  have near := near_side wide fits.large low
  have near' := near_side high fits.large flat
  obtain ⟨m, m_eq⟩ : 16 ∣ Arithmetic.doubles.side width scale := dvd_align16 _
  obtain ⟨n, n_eq⟩ : 16 ∣ Arithmetic.doubles.side height scale := dvd_align16 _
  rw [m_eq] at near short ⊢
  rw [n_eq] at near' short' ⊢
  have blocks : pixelBudget resolution = 256 * blockBudget resolution := by
    cases resolution <;> rfl
  by_contra above
  have many : blockBudget resolution < m * n := by
    have product : 16 * m * (16 * n) = 256 * (m * n) := by ring
    omega
  obtain ⟨i, rfl⟩ : ∃ i, m = i + 1 := Nat.exists_eq_succ_of_ne_zero (by rintro rfl; simp at many)
  obtain ⟨k, rfl⟩ : ∃ k, n = k + 1 := Nat.exists_eq_succ_of_ne_zero (by rintro rfl; simp at many)
  have far := no_frame_above resolution (i + 1) (by omega) (k + 1) (by omega) many
  have far' : (1024 * blockBudget resolution + 1 : ℚ) ≤ (32 * i + 31) * (32 * k + 31) := by
    have cast : (32 * (i + 1) - 1) * (32 * (k + 1) - 1) = (32 * i + 31) * (32 * k + 31) := by
      congr 1
    rw [cast] at far
    exact_mod_cast far
  have product : ((16 * i + 31 / 2) * (16 * k + 31 / 2) : ℚ) ≤
      width * scale * slack ^ 2 * (height * scale * slack ^ 2) := by
    push_cast at near near'
    apply mul_le_mul <;> first | positivity | linarith
  have bounded : (width * scale * slack ^ 2 * (height * scale * slack ^ 2) : ℚ) ≤
      256 * blockBudget resolution * slack ^ 27 := by
    calc (width * scale * slack ^ 2 * (height * scale * slack ^ 2) : ℚ)
        = width * scale * (height * scale) * slack ^ 4 := by ring
      _ ≤ pixelBudget resolution * slack ^ 23 * slack ^ 4 :=
        mul_le_mul_of_nonneg_right fits.area (slack_pow_pos 4).le
      _ = 256 * blockBudget resolution * slack ^ 27 := by
        rw [blocks]
        push_cast
        ring
  have gap : (1024 * blockBudget resolution : ℚ) * slack ^ 27 <
      1024 * blockBudget resolution + 1 := by
    cases resolution <;> norm_num [blockBudget, slack]
  linarith

/-- At 720p the longer side is too long for 480p. -/
theorem longest_above (fits : FitsRounded width height .p720 scale) (wide : HeaderSide width)
    (high : HeaderSide height) :
    960 ≤ max (Arithmetic.doubles.side width scale) (Arithmetic.doubles.side height scale) := by
  have pos := fits.pos
  have long : ((960 : Nat) - 1 / 2 : ℚ) * slack ^ 2 ≤ (max width height : Nat) * scale := by
    rcases fits.full with limit | budget
    · refine le_of_mul_le_mul_right ?_ (slack_pow_pos 5)
      refine le_trans ?_ limit
      norm_num [maxDimension, slack]
    · have w : (width : ℚ) * scale ≤ (max width height : Nat) * scale :=
        mul_le_mul_of_nonneg_right (Nat.cast_le.mpr (le_max_left width height)) pos.le
      have h : (height : ℚ) * scale ≤ (max width height : Nat) * scale :=
        mul_le_mul_of_nonneg_right (Nat.cast_le.mpr (le_max_right width height)) pos.le
      refine le_of_sq_le_sq ?_ (by positivity)
      refine le_of_mul_le_mul_right ?_ (slack_pow_pos 7)
      calc (((960 : Nat) - 1 / 2 : ℚ) * slack ^ 2) ^ 2 * slack ^ 7
          ≤ pixelBudget .p720 := by norm_num [pixelBudget, slack]
        _ ≤ width * scale * (height * scale) * slack ^ 7 := budget
        _ ≤ ((max width height : Nat) * scale) ^ 2 * slack ^ 7 := by
          rw [sq]
          refine mul_le_mul_of_nonneg_right ?_ (slack_pow_pos 7).le
          exact mul_le_mul w h (by positivity) (by positivity)
  rcases max_choice width height with same | same
  · rw [same] at long
    exact le_max_of_le_left (le_side wide fits.large (by decide) long)
  · rw [same] at long
    exact le_max_of_le_right (le_side high fits.large (by decide) long)

end FitsRounded

end Scale

/-- In double precision too a derived frame is aligned, inside the bounds of its resolution
and of no smaller one. -/
theorem fitSize_doubles {width height : Nat} (wide : HeaderSide width) (high : HeaderSide height)
    (resolution : Resolution) :
    ∃ w h, Arithmetic.doubles.fitSize width height resolution = .ok (frameText w h) ∧
      16 ∣ w ∧ 16 ∣ h ∧ 16 ≤ w ∧ 16 ≤ h ∧ resolution.Admits w h ∧
      (resolution = .p720 → ¬ Resolution.p480.Admits w h) := by
  have fits := fitsRounded_scale wide high resolution
  set scale := Arithmetic.doubles.scale width height resolution with scale_eq
  set w := Arithmetic.doubles.side width scale with w_eq
  set h := Arithmetic.doubles.side height scale with h_eq
  have w_dvd : 16 ∣ w := dvd_align16 _
  have h_dvd : 16 ∣ h := dvd_align16 _
  have w_large : 16 ≤ w := le_align16 _
  have h_large : 16 ≤ h := le_align16 _
  have admits : resolution.Admits w h :=
    ⟨fits.area_le wide high, max_le (fits.side_le wide) (fits.swap.side_le high)⟩
  have above : resolution = .p720 → ¬ Resolution.p480.Admits w h := by
    rintro rfl ⟨-, short⟩
    have long := fits.longest_above wide high
    simp only [maxDimension] at short
    omega
  refine ⟨w, h, ?_, w_dvd, h_dvd, w_large, h_large, admits, above⟩
  rw [Arithmetic.fitSize, if_pos ⟨wide.1, high.1⟩]

/-- The validator, too, returns such a frame unchanged, whatever sides a header spells. -/
theorem double_frame_passes (width height : Nat) (wide : HeaderSide width)
    (high : HeaderSide height) (resolution : Resolution) :
    ∃ w h, Arithmetic.doubles.fitSize width height resolution = .ok (frameText w h) ∧
      16 ∣ w ∧ 16 ∣ h ∧ 16 ≤ w ∧ 16 ≤ h ∧ resolution.Admits w h ∧
      (resolution = .p720 → ¬ Resolution.p480.Admits w h) ∧
      checkSize (frameText w h) resolutions = some ⟨frameText w h, resolution⟩ := by
  obtain ⟨w, h, fitted, w_dvd, h_dvd, w_large, h_large, admits, above⟩ :=
    fitSize_doubles wide high resolution
  have short := admits.short
  refine ⟨w, h, fitted, w_dvd, h_dvd, w_large, h_large, admits, above, ?_⟩
  rw [checkSize_frameText _ (by omega) (by omega) ⟨w_dvd, h_dvd⟩]
  cases resolution with
  | p480 => simp [resolutions, admits]
  | p720 => simp [resolutions, admits, above rfl]

/-- A square image, at the resolution where its exact frame is a whole one. -/
theorem double_frame_passes_sample :
    ∃ w h, Arithmetic.doubles.fitSize 1000 1000 .p720 = .ok (frameText w h) ∧
      checkSize (frameText w h) resolutions = some ⟨frameText w h, .p720⟩ := by
  obtain ⟨w, h, fitted, -, -, -, -, -, -, checked⟩ :=
    double_frame_passes 1000 1000 ⟨by decide, by decide⟩ ⟨by decide, by decide⟩ .p720
  exact ⟨w, h, fitted, checked⟩

end InferenceGateway
