import InferenceGateway.Domain.Types

/-!
# Output sizing

Frames a client may name, and the aspect-preserving frame derived from its
image.  `fitSize` is written over the numbers it computes with.
-/

namespace InferenceGateway

/-- `RESOLUTIONS`. -/
def resolutions : List Resolution := [.p480, .p720]

def Resolution.label : Resolution → String
  | .p480 => "480p"
  | .p720 => "720p"

/-- `PIXEL_BUDGET`. -/
def pixelBudget : Resolution → Nat
  | .p480 => 480 * 832
  | .p720 => 720 * 1280

/-- `MAX_DIMENSION`: the longest side at each resolution. -/
def maxDimension : Resolution → Nat
  | .p480 => 832
  | .p720 => 1280

/-- `isResolution`, with the resolution. -/
def isResolution (value : String) : Option Resolution :=
  resolutions.find? fun resolution => resolution.label = value

def frameText (width height : Nat) : String := toString width ++ "x" ++ toString height

/-! ### Frames a client names -/

/-- `\d{2,5}`. -/
def isSide (digits : List Char) : Bool :=
  digits.all Char.isDigit && decide (2 ≤ digits.length) && decide (digits.length ≤ 5)

/-- The groups of `/^(\d{2,5})x(\d{2,5})$/`. -/
def matchFrame (text : List Char) : Option (List Char × List Char) :=
  match text.dropWhile Char.isDigit with
  | 'x' :: second =>
    let first := text.takeWhile Char.isDigit
    if isSide first && isSide second then some (first, second) else none
  | _ => none

structure CheckedSize where
  size : String
  resolution : Resolution
  deriving DecidableEq

/-- The frame is inside the bounds of the resolution, in area and in longest side. -/
def Resolution.Admits (resolution : Resolution) (width height : Nat) : Prop :=
  width * height ≤ pixelBudget resolution ∧ max width height ≤ maxDimension resolution

instance (resolution : Resolution) (width height : Nat) :
    Decidable (resolution.Admits width height) := inferInstanceAs (Decidable (_ ∧ _))

/-- The smallest bucket that fits wins. -/
def checkSize (value : String) (allowed : List Resolution) : Option CheckedSize :=
  match matchFrame (trim value).toList with
  | none => none
  | some (first, second) =>
    let width := Nat.ofDigitChars 10 first 0
    let height := Nat.ofDigitChars 10 second 0
    if width % 16 ≠ 0 ∨ height % 16 ≠ 0 then none
    else
      (allowed.find? fun resolution => resolution.Admits width height).map fun resolution =>
        ⟨frameText width height, resolution⟩

/-! ### Frames derived from an image -/

/-- The operations on numbers `fitSize` uses. -/
structure Arithmetic (Number : Type) where
  ofNat : Nat → Number
  mul : Number → Number → Number
  div : Number → Number → Number
  sqrt : Number → Number
  less : Number → Number → Bool
  round : Number → Int

/-- Round down to a multiple of 16, never below one macroblock. -/
def align16 (rounded : Int) : Nat := (max 16 (rounded / 16 * 16)).toNat

namespace Arithmetic

variable {Number : Type} (arithmetic : Arithmetic Number)

/-- The factor that fills the pixel budget, pulled back where a side would be too long. -/
def scale (width height : Nat) (resolution : Resolution) : Number :=
  let area := arithmetic.mul (arithmetic.ofNat width) (arithmetic.ofNat height)
  let scale := arithmetic.sqrt (arithmetic.div (arithmetic.ofNat (pixelBudget resolution)) area)
  let longest := arithmetic.mul (arithmetic.ofNat (max width height)) scale
  let limit := arithmetic.ofNat (maxDimension resolution)
  if arithmetic.less limit longest then arithmetic.mul scale (arithmetic.div limit longest)
  else scale

/-- A scaled and aligned side. -/
def side (length : Nat) (scale : Number) : Nat :=
  align16 (arithmetic.round (arithmetic.mul (arithmetic.ofNat length) scale))

/-- The derived frame, or the message of the exception. -/
def fitSize (width height : Nat) (resolution : Resolution) : Except String String :=
  if 0 < width ∧ 0 < height then
    let scale := arithmetic.scale width height resolution
    .ok (frameText (arithmetic.side width scale) (arithmetic.side height scale))
  else .error ("invalid image dimensions " ++ toString width ++ "x" ++ toString height)

end Arithmetic

/-! ### Decimal frames -/

theorem isDigit_of_mem_toDigits {n : Nat} {c : Char} (member : c ∈ Nat.toDigits 10 n) :
    c.isDigit = true :=
  Nat.isDigit_of_mem_toDigits (by decide) (by decide) member

theorem toList_frameText (width height : Nat) :
    (frameText width height).toList = Nat.toDigits 10 width ++ 'x' :: Nat.toDigits 10 height := by
  simp [frameText]

theorem isTrimmed_of_isDigit {c : Char} (digit : c.isDigit = true) : isTrimmed c = false := by
  obtain ⟨n, small, rfl⟩ : ∃ n < 10, c = Char.ofNat (48 + n) := by
    rw [Char.isDigit_iff_toNat] at digit
    change 48 ≤ c.toNat ∧ c.toNat ≤ 57 at digit
    refine ⟨c.toNat - 48, by omega, ?_⟩
    rw [show 48 + (c.toNat - 48) = c.toNat by omega, Char.ofNat_toNat]
  revert n
  decide

theorem dropWhile_eq_self {text : List Char} (kept : ∀ c ∈ text, isTrimmed c = false) :
    text.dropWhile isTrimmed = text := by
  cases text with
  | nil => rfl
  | cons c rest => exact List.dropWhile_cons_of_neg (by simp [kept c (.head _)])

theorem trim_eq_self {text : String} (kept : ∀ c ∈ text.toList, isTrimmed c = false) :
    trim text = text := by
  have kept' : ∀ c ∈ text.toList.reverse, isTrimmed c = false := fun c member =>
    kept c (List.mem_reverse.mp member)
  rw [trim, dropWhile_eq_self kept, dropWhile_eq_self kept', List.reverse_reverse,
    String.ofList_toList]

theorem trim_frameText (width height : Nat) :
    trim (frameText width height) = frameText width height := by
  apply trim_eq_self
  intro c member
  rw [toList_frameText, List.mem_append, List.mem_cons] at member
  rcases member with digit | rfl | digit
  · exact isTrimmed_of_isDigit (isDigit_of_mem_toDigits digit)
  · decide
  · exact isTrimmed_of_isDigit (isDigit_of_mem_toDigits digit)

theorem isSide_toDigits {n : Nat} (lower : 10 ≤ n) (upper : n < 100000) :
    isSide (Nat.toDigits 10 n) = true := by
  have short : (Nat.toDigits 10 n).length ≤ 5 :=
    (Nat.length_toDigits_le_iff (by decide) (by decide)).mpr upper
  have long : ¬ (Nat.toDigits 10 n).length ≤ 1 := by
    rw [Nat.length_toDigits_le_iff (by decide) (by decide)]
    omega
  simp only [isSide, Bool.and_eq_true, List.all_eq_true, decide_eq_true_eq]
  exact ⟨⟨fun c => isDigit_of_mem_toDigits, by omega⟩, short⟩

theorem matchFrame_frameText {width height : Nat} (wide : 10 ≤ width ∧ width < 100000)
    (high : 10 ≤ height ∧ height < 100000) :
    matchFrame (frameText width height).toList =
      some (Nat.toDigits 10 width, Nat.toDigits 10 height) := by
  have digits : ∀ c ∈ Nat.toDigits 10 width, c.isDigit = true := fun c => isDigit_of_mem_toDigits
  rw [toList_frameText, matchFrame, List.dropWhile_append_of_pos digits,
    List.takeWhile_append_of_pos digits]
  simp [isSide_toDigits wide.1 wide.2, isSide_toDigits high.1 high.2]

/-- What the route makes of a frame that is written in decimal. -/
theorem checkSize_frameText {width height : Nat} (allowed : List Resolution)
    (wide : 10 ≤ width ∧ width < 100000) (high : 10 ≤ height ∧ height < 100000)
    (aligned : 16 ∣ width ∧ 16 ∣ height) :
    checkSize (frameText width height) allowed =
      (allowed.find? fun resolution => resolution.Admits width height).map fun resolution =>
        ⟨frameText width height, resolution⟩ := by
  have multiples : ¬ (width % 16 ≠ 0 ∨ height % 16 ≠ 0) := by omega
  rw [checkSize, trim_frameText, matchFrame_frameText wide high]
  simp only [Nat.ofDigitChars_ten_toDigits, if_neg multiples]

theorem frameText_inj {width height width' height' : Nat}
    (same : frameText width height = frameText width' height') :
    width = width' ∧ height = height' := by
  have digits (n : Nat) : ∀ c ∈ Nat.toDigits 10 n, c.isDigit = true := fun c =>
    isDigit_of_mem_toDigits
  have lists := congrArg String.toList same
  rw [toList_frameText, toList_frameText] at lists
  have firsts := congrArg (List.takeWhile Char.isDigit) lists
  have seconds := congrArg (List.dropWhile Char.isDigit) lists
  rw [List.takeWhile_append_of_pos (digits _), List.takeWhile_append_of_pos (digits _)] at firsts
  rw [List.dropWhile_append_of_pos (digits _), List.dropWhile_append_of_pos (digits _)] at seconds
  simp at firsts seconds
  constructor
  · rw [← Nat.ofDigitChars_ten_toDigits (n := width), firsts, Nat.ofDigitChars_ten_toDigits]
  · rw [← Nat.ofDigitChars_ten_toDigits (n := height), seconds, Nat.ofDigitChars_ten_toDigits]

/-- The sides a text names. -/
def NamesFrame (value : String) (width height : Nat) : Prop :=
  ∃ first second, matchFrame (trim value).toList = some (first, second) ∧
    width = Nat.ofDigitChars 10 first 0 ∧ height = Nat.ofDigitChars 10 second 0

theorem checkSize_eq_some {value : String} {allowed : List Resolution} {checked : CheckedSize} :
    checkSize value allowed = some checked ↔
      ∃ width height, NamesFrame value width height ∧ 16 ∣ width ∧ 16 ∣ height ∧
        (allowed.find? fun resolution => resolution.Admits width height) =
          some checked.resolution ∧ checked.size = frameText width height := by
  obtain ⟨size, resolution⟩ := checked
  unfold checkSize NamesFrame
  cases groups : matchFrame (trim value).toList with
  | none => simp
  | some pair =>
    obtain ⟨first, second⟩ := pair
    simp only [Option.some.injEq, Prod.mk.injEq]
    constructor
    · intro checked
      split at checked
      · cases checked
      · rename_i aligned
        obtain ⟨found, chosen, same⟩ := Option.map_eq_some_iff.mp checked
        cases same
        exact ⟨_, _, ⟨first, second, ⟨rfl, rfl⟩, rfl, rfl⟩, by omega, by omega, chosen, rfl⟩
    · rintro ⟨_, _, ⟨_, _, ⟨rfl, rfl⟩, rfl, rfl⟩, wide, high, chosen, rfl⟩
      rw [if_neg (by omega), chosen, Option.map_some]

theorem Resolution.Admits.short {resolution : Resolution} {width height : Nat}
    (admits : resolution.Admits width height) : width < 100000 ∧ height < 100000 := by
  have limit := admits.2
  cases resolution <;> simp only [maxDimension] at limit <;> omega

/-- Some bucket is chosen when one of them fits. -/
theorem find_admitting {allowed : List Resolution} {resolution : Resolution} {width height : Nat}
    (member : resolution ∈ allowed) (admits : resolution.Admits width height) :
    ∃ chosen, (allowed.find? fun resolution => resolution.Admits width height) = some chosen := by
  apply Option.isSome_iff_exists.mp
  rw [List.find?_isSome]
  exact ⟨resolution, member, by simpa using admits⟩

/-! ### Accepted frames -/

/-- An accepted frame is a renderable one in normal form, and every renderable frame is
accepted. -/
structure Normalises (value : String) (allowed : List Resolution) : Prop where
  sound : ∀ checked, checkSize value allowed = some checked →
    ∃ width height, checked.size = frameText width height ∧ 16 ∣ width ∧ 16 ∣ height ∧
      16 ≤ width ∧ 16 ≤ height ∧ checked.resolution.Admits width height ∧
      checked.resolution ∈ allowed ∧ checkSize checked.size allowed = some checked
  complete : ∀ width height, value = frameText width height → 16 ∣ width → 16 ∣ height →
    16 ≤ width → 16 ≤ height → (∃ resolution ∈ allowed, resolution.Admits width height) →
      ∃ resolution, checkSize value allowed = some ⟨value, resolution⟩

/-- The text names an aligned frame without an area whose other side is short enough. -/
def NamesEmptyFrame (value : String) (allowed : List Resolution) : Prop :=
  ∃ width height, NamesFrame value width height ∧ (width = 0 ∨ height = 0) ∧
    16 ∣ width ∧ 16 ∣ height ∧ ∃ resolution ∈ allowed, max width height ≤ maxDimension resolution

theorem size_normalised (value : String) (allowed : List Resolution) :
    Normalises value allowed ↔ ¬ NamesEmptyFrame value allowed := by
  constructor
  · rintro ⟨sound, -⟩ ⟨width, height, names, empty, wide, high, resolution, member, short⟩
    have admitted : resolution.Admits width height := by
      refine ⟨?_, short⟩
      rcases empty with rfl | rfl <;> simp
    obtain ⟨chosen, found⟩ := find_admitting member admitted
    obtain ⟨width', height', same, -, -, wide', high', -⟩ :=
      sound ⟨frameText width height, chosen⟩
        (checkSize_eq_some.mpr ⟨width, height, names, wide, high, found, rfl⟩)
    obtain ⟨rfl, rfl⟩ := frameText_inj same
    omega
  · intro area
    constructor
    · intro checked accepted
      obtain ⟨width, height, names, wide, high, chosen, size⟩ := checkSize_eq_some.mp accepted
      have admits : checked.resolution.Admits width height := by
        simpa using List.find?_some chosen
      have member := List.mem_of_find?_eq_some chosen
      have nonempty : ¬ (width = 0 ∨ height = 0) := fun empty =>
        area ⟨width, height, names, empty, wide, high, _, member, admits.2⟩
      have short := admits.short
      refine ⟨width, height, size, wide, high, by omega, by omega, admits, member, ?_⟩
      rw [size, checkSize_frameText allowed (by omega) (by omega) ⟨wide, high⟩, chosen,
        Option.map_some, ← size]
    · rintro width height rfl wide high large tall ⟨resolution, member, admits⟩
      have short := admits.short
      obtain ⟨chosen, found⟩ := find_admitting member admits
      refine ⟨chosen, ?_⟩
      rw [checkSize_frameText allowed (by omega) (by omega) ⟨wide, high⟩, found, Option.map_some]

/-- A frame without an area is accepted. -/
theorem not_size_normalised :
    ¬ ∀ value allowed, allowed ≠ [] → Normalises value allowed := by
  intro normalises
  have accepted : checkSize "00x16" resolutions = some ⟨"0x16", .p480⟩ := by decide
  obtain ⟨sound, -⟩ := normalises "00x16" resolutions (by decide)
  obtain ⟨-, -, -, -, -, -, -, -, -, again⟩ := sound _ accepted
  have refused : checkSize "0x16" resolutions = none := by decide
  rw [refused] at again
  cases again

end InferenceGateway
