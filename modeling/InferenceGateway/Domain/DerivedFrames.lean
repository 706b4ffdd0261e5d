import InferenceGateway.Domain.Sizing
import Mathlib.Analysis.Real.Sqrt

/-!
# Derived frames pass the validator

`fitSize` over the reals: rounding a side to the nearest pixel before aligning
it never carries the frame past its pixel budget, because no product of two
admissible multiples of 16 lies just above the budget.
-/

namespace InferenceGateway

namespace Arithmetic

open Classical in
/-- Exact arithmetic; `round x` is `⌊x + 1 / 2⌋`. -/
noncomputable def reals : Arithmetic ℝ where
  ofNat n := n
  mul := (· * ·)
  div := (· / ·)
  sqrt := Real.sqrt
  less x y := decide (x < y)
  round x := ⌊x + 1 / 2⌋

end Arithmetic

/-! ### Alignment -/

theorem dvd_align16 (rounded : Int) : 16 ∣ align16 rounded := by
  unfold align16
  omega

theorem le_align16 (rounded : Int) : 16 ≤ align16 rounded := by
  unfold align16
  omega

theorem align16_le {rounded : Int} {limit : Nat} (large : 16 ≤ limit) (below : rounded ≤ limit) :
    align16 rounded ≤ limit := by
  unfold align16
  omega

theorem align16_le_self {rounded : Int} (large : align16 rounded ≠ 16) :
    (align16 rounded : Int) ≤ rounded := by
  unfold align16 at *
  omega

/-- Alignment does not fall below a multiple of 16. -/
theorem le_align16_of_le {rounded : Int} {bound : Nat} (multiple : 16 ∣ bound)
    (above : (bound : Int) ≤ rounded) : bound ≤ align16 rounded := by
  unfold align16
  omega

/-! ### The scale -/

section Scale

variable {width height : Nat} {resolution : Resolution}

/-- What the scale does to the sides. -/
structure Fits (width height : Nat) (resolution : Resolution) (scale : ℝ) : Prop where
  area : width * scale * (height * scale) ≤ pixelBudget resolution
  longest : max width height * scale ≤ maxDimension resolution
  /-- The longest side is at the limit, or the budget is used up. -/
  full : (max width height * scale : ℝ) = maxDimension resolution ∨
    (width * scale * (height * scale) : ℝ) = pixelBudget resolution
  nonneg : 0 ≤ scale

theorem fits_scale (wide : 0 < width) (high : 0 < height) (resolution : Resolution) :
    Fits width height resolution (Arithmetic.reals.scale width height resolution) := by
  have w : (0 : ℝ) < width := Nat.cast_pos.mpr wide
  have h : (0 : ℝ) < height := Nat.cast_pos.mpr high
  have budget : (0 : ℝ) ≤ pixelBudget resolution := Nat.cast_nonneg _
  set s := Real.sqrt (pixelBudget resolution / (width * height)) with s_eq
  have s_nonneg : 0 ≤ s := Real.sqrt_nonneg _
  have square : s * s = pixelBudget resolution / (width * height) :=
    Real.mul_self_sqrt (by positivity)
  have whole : (width * s * (height * s) : ℝ) = pixelBudget resolution := by
    calc (width * s * (height * s) : ℝ) = width * height * (s * s) := by ring
      _ = pixelBudget resolution := by rw [square]; field_simp
  have unfolded : Arithmetic.reals.scale width height resolution =
      if (maxDimension resolution : ℝ) < max width height * s then
        s * (maxDimension resolution / (max width height * s))
      else s := by
    simp [Arithmetic.scale, Arithmetic.reals, s_eq]
  rw [unfolded]
  split
  · rename_i long
    have limit : (0 : ℝ) ≤ maxDimension resolution := Nat.cast_nonneg _
    have side : (0 : ℝ) < max width height * s := limit.trans_lt long
    set pull : ℝ := maxDimension resolution / (max width height * s) with pull_eq
    have pull_nonneg : 0 ≤ pull := by positivity
    have pull_le : pull ≤ 1 := (div_le_one side).mpr long.le
    have exact_side : (max width height * (s * pull) : ℝ) = maxDimension resolution := by
      rw [← mul_assoc, pull_eq, mul_div_cancel₀ _ side.ne']
    refine ⟨?_, exact_side.le, .inl exact_side, mul_nonneg s_nonneg pull_nonneg⟩
    calc (width * (s * pull) * (height * (s * pull)) : ℝ)
        = width * s * (height * s) * (pull * pull) := by ring
      _ = pixelBudget resolution * (pull * pull) := by rw [whole]
      _ ≤ pixelBudget resolution * 1 := by
        apply mul_le_mul_of_nonneg_left _ budget
        exact mul_le_one₀ pull_le pull_nonneg pull_le
      _ = pixelBudget resolution := mul_one _
  · rename_i short
    exact ⟨whole.le, not_lt.mp short, .inr whole, s_nonneg⟩

namespace Fits

variable {scale : ℝ}

theorem wide_le (fits : Fits width height resolution scale) :
    width * scale ≤ maxDimension resolution := by
  refine le_trans ?_ fits.longest
  exact mul_le_mul_of_nonneg_right (Nat.cast_le.mpr (le_max_left width height)) fits.nonneg

theorem swap (fits : Fits width height resolution scale) :
    Fits height width resolution scale where
  area := by rw [mul_comm]; exact fits.area
  longest := by rw [max_comm]; exact fits.longest
  full := by rw [max_comm, mul_comm (height * scale)]; exact fits.full
  nonneg := fits.nonneg

theorem side_le (fits : Fits width height resolution scale) :
    Arithmetic.reals.side width scale ≤ maxDimension resolution := by
  apply align16_le
  · cases resolution <;> decide
  · have below : ((width : ℝ) * scale + 1 / 2) < (maxDimension resolution : ℤ) + 1 := by
      have wide := fits.wide_le
      push_cast
      linarith
    exact Int.lt_add_one_iff.mp (Int.floor_lt.mpr (by exact_mod_cast below))

/-- A side above the minimum exceeds its exact value by half a pixel at most. -/
theorem near {length : Nat} (large : Arithmetic.reals.side length scale ≠ 16) :
    (Arithmetic.reals.side length scale : ℝ) - 1 / 2 ≤ length * scale := by
  have aligned := align16_le_self large
  have floor := Int.floor_le ((length : ℝ) * scale + 1 / 2)
  have cast : (Arithmetic.reals.side length scale : ℝ) ≤ ⌊(length : ℝ) * scale + 1 / 2⌋ := by
    exact_mod_cast aligned
  linarith

end Fits

/-- The budget in macroblocks, and the longest side in their sides. -/
def blockBudget : Resolution → Nat
  | .p480 => 30 * 52
  | .p720 => 45 * 80

/-- A frame of too many macroblocks is too large even when half a pixel is taken off each side. -/
theorem no_frame_above (resolution : Resolution) :
    ∀ m ≤ maxDimension resolution / 16, ∀ n ≤ maxDimension resolution / 16,
      blockBudget resolution < m * n →
        1024 * blockBudget resolution < (32 * m - 1) * (32 * n - 1) := by
  cases resolution <;> decide +kernel

theorem area_le_of_near {a b : ℝ} {first second : Nat}
    (budget : a * b ≤ pixelBudget resolution) (aligned : 16 ∣ first) (aligned' : 16 ∣ second)
    (large : 16 ≤ first) (large' : 16 ≤ second) (short : first ≤ maxDimension resolution)
    (short' : second ≤ maxDimension resolution) (near : (first : ℝ) - 1 / 2 ≤ a)
    (near' : (second : ℝ) - 1 / 2 ≤ b) : first * second ≤ pixelBudget resolution := by
  obtain ⟨m, rfl⟩ := aligned
  obtain ⟨n, rfl⟩ := aligned'
  have blocks : pixelBudget resolution = 256 * blockBudget resolution := by
    cases resolution <;> rfl
  by_contra above
  have many : blockBudget resolution < m * n := by
    rw [blocks, not_le] at above
    have area : 16 * m * (16 * n) = 256 * (m * n) := by ring
    omega
  have far := no_frame_above resolution m (by omega) n (by omega) many
  obtain ⟨i, rfl⟩ : ∃ i, m = i + 1 := ⟨m - 1, by omega⟩
  obtain ⟨k, rfl⟩ : ∃ k, n = k + 1 := ⟨n - 1, by omega⟩
  have far' : (1024 * blockBudget resolution : ℝ) < (32 * i + 31) * (32 * k + 31) := by
    have cast : (32 * (i + 1) - 1) * (32 * (k + 1) - 1) = (32 * i + 31) * (32 * k + 31) := by
      congr 1
    rw [cast] at far
    exact_mod_cast far
  have product : (16 * i + 31 / 2) * (16 * k + 31 / 2) ≤ a * b := by
    push_cast at near near'
    apply mul_le_mul <;> linarith
  rw [blocks] at budget
  push_cast at budget
  linarith

theorem Fits.area_le {scale : ℝ} (fits : Fits width height resolution scale) :
    Arithmetic.reals.side width scale * Arithmetic.reals.side height scale ≤
      pixelBudget resolution := by
  have wide := fits.side_le
  have high := fits.swap.side_le
  have slim : 16 * maxDimension resolution ≤ pixelBudget resolution := by
    cases resolution <;> decide
  by_cases low : Arithmetic.reals.side width scale = 16
  · rw [low]
    exact (Nat.mul_le_mul_left 16 high).trans slim
  · by_cases flat : Arithmetic.reals.side height scale = 16
    · rw [flat, mul_comm]
      exact (Nat.mul_le_mul_left 16 wide).trans slim
    · exact area_le_of_near fits.area (dvd_align16 _) (dvd_align16 _) (le_align16 _)
        (le_align16 _) wide high (Fits.near low) (Fits.near flat)

/-- At 720p the longer side is too long for 480p. -/
theorem Fits.longest_above {scale : ℝ} (fits : Fits width height .p720 scale) :
    960 ≤ max (Arithmetic.reals.side width scale) (Arithmetic.reals.side height scale) := by
  have long : (960 : ℝ) ≤ max width height * scale := by
    rcases fits.full with limit | budget
    · rw [limit]
      norm_num [maxDimension]
    · have w : width * scale ≤ max width height * scale :=
        mul_le_mul_of_nonneg_right (Nat.cast_le.mpr (le_max_left width height)) fits.nonneg
      have h : height * scale ≤ max width height * scale :=
        mul_le_mul_of_nonneg_right (Nat.cast_le.mpr (le_max_right width height)) fits.nonneg
      have h_nonneg : 0 ≤ height * scale := mul_nonneg (Nat.cast_nonneg _) fits.nonneg
      have square : (960 : ℝ) * 960 ≤ max width height * scale * (max width height * scale) := by
        calc (960 : ℝ) * 960 = width * scale * (height * scale) := by
              rw [budget]
              norm_num [pixelBudget]
          _ ≤ max width height * scale * (max width height * scale) :=
            mul_le_mul w h h_nonneg (h_nonneg.trans h)
      exact (mul_self_le_mul_self_iff (by norm_num) (h_nonneg.trans h)).mpr square
  have aligned {length : Nat} (above : (960 : ℝ) ≤ length * scale) :
      960 ≤ Arithmetic.reals.side length scale := by
    apply le_align16_of_le (by decide)
    have floor : (960 : ℤ) ≤ ⌊(length : ℝ) * scale + 1 / 2⌋ := by
      apply Int.le_floor.mpr
      push_cast
      linarith
    exact floor
  rcases max_choice width height with same | same
  · rw [same] at long
    exact le_max_of_le_left (aligned long)
  · rw [same] at long
    exact le_max_of_le_right (aligned long)

end Scale

/-- A derived frame is aligned, inside the bounds of its resolution and of no smaller one, and
the validator returns it unchanged. -/
theorem derived_frame_passes (width height : Nat) (wide : 0 < width) (high : 0 < height)
    (resolution : Resolution) :
    ∃ w h, Arithmetic.reals.fitSize width height resolution = .ok (frameText w h) ∧
      16 ∣ w ∧ 16 ∣ h ∧ 16 ≤ w ∧ 16 ≤ h ∧ resolution.Admits w h ∧
      (resolution = .p720 → ¬ Resolution.p480.Admits w h) ∧
      checkSize (frameText w h) resolutions = some ⟨frameText w h, resolution⟩ := by
  have fits := fits_scale wide high resolution
  set scale := Arithmetic.reals.scale width height resolution with scale_eq
  set w := Arithmetic.reals.side width scale with w_eq
  set h := Arithmetic.reals.side height scale with h_eq
  have w_dvd : 16 ∣ w := dvd_align16 _
  have h_dvd : 16 ∣ h := dvd_align16 _
  have w_large : 16 ≤ w := le_align16 _
  have h_large : 16 ≤ h := le_align16 _
  have admits : resolution.Admits w h := ⟨fits.area_le, max_le fits.side_le fits.swap.side_le⟩
  have above : resolution = .p720 → ¬ Resolution.p480.Admits w h := by
    rintro rfl ⟨-, short⟩
    have long := fits.longest_above
    simp only [maxDimension] at short
    omega
  have short := admits.short
  refine ⟨w, h, ?_, w_dvd, h_dvd, w_large, h_large, admits, above, ?_⟩
  · rw [Arithmetic.fitSize, if_pos ⟨wide, high⟩]
  · rw [checkSize_frameText _ (by omega) (by omega) ⟨w_dvd, h_dvd⟩]
    cases resolution with
    | p480 => simp [resolutions, admits]
    | p720 => simp [resolutions, admits, above rfl]

/-- A square image. -/
theorem derived_frame_passes_sample :
    ∃ w h, Arithmetic.reals.fitSize 1000 1000 .p480 = .ok (frameText w h) ∧
      checkSize (frameText w h) resolutions = some ⟨frameText w h, .p480⟩ := by
  obtain ⟨w, h, fitted, -, -, -, -, -, -, checked⟩ :=
    derived_frame_passes 1000 1000 (by decide) (by decide) .p480
  exact ⟨w, h, fitted, checked⟩

end InferenceGateway
