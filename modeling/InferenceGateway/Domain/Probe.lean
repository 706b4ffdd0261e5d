import InferenceGateway.Domain.Types
import InferenceGateway.Library.Buffer

/-!
# Image header probing

The dimensions of a JPEG, PNG or WebP image, read from its header.  Every read
may raise a range error; a header that does not spell dimensions yields none.
-/

namespace InferenceGateway

open Library Buffer

structure Dimensions where
  width : Nat
  height : Nat
  deriving DecidableEq, Repr

/-- `width && height ? { width, height } : null`. -/
def Dimensions.nonzero (width height : Nat) : Option Dimensions :=
  if width ≠ 0 ∧ height ≠ 0 then some ⟨width, height⟩ else none

/-- IHDR is always the first chunk. -/
def probePng (bytes : Bytes) : Except RangeError (Option Dimensions) := do
  if bytes.length < 24 then return none
  if (← readUInt32BE bytes 0) ≠ 0x89504e47 then return none
  if (← readUInt32BE bytes 4) ≠ 0x0d0a1a0a then return none
  if ascii (subarray bytes 12 16) ≠ "IHDR" then return none
  let width ← readUInt32BE bytes 16
  let height ← readUInt32BE bytes 20
  return Dimensions.nonzero width height

/-- Markers without a length payload, as `probeJpeg` tells them. -/
def isStandalone (marker : Nat) : Bool :=
  marker = 0xd8 || marker = 0x01 || (0xd0 ≤ marker && marker ≤ 0xd7)

/-- SOF0 to SOF15, excluding the DHT, JPG and DAC markers interleaved in that range. -/
def isSof (marker : Nat) : Bool :=
  0xc0 ≤ marker && marker ≤ 0xcf && marker ≠ 0xc4 && marker ≠ 0xc8 && marker ≠ 0xcc

/-- The loop of `probeJpeg`. -/
def walkSegments (bytes : Bytes) (offset : Nat) : Except RangeError (Option Dimensions) :=
  if offset + 3 < bytes.length then do
    if (← readUInt8 bytes offset) ≠ 0xff then
      walkSegments bytes (offset + 1)  -- resynchronise over fill bytes
    else
      let marker ← readUInt8 bytes (offset + 1)
      let start := offset + 2
      if isStandalone marker then walkSegments bytes start
      else if marker = 0xda then return none
      else if start + 1 ≥ bytes.length then return none
      else
        let length ← readUInt16BE bytes start
        if length < 2 then return none
        else if isSof marker then
          if start + 7 ≥ bytes.length then return none
          else
            let height ← readUInt16BE bytes (start + 3)
            let width ← readUInt16BE bytes (start + 5)
            return Dimensions.nonzero width height
        else walkSegments bytes (start + length)
  else return none
termination_by bytes.length - offset

/-- Walk the marker segments to the first Start-Of-Frame. -/
def probeJpeg (bytes : Bytes) : Except RangeError (Option Dimensions) := do
  if bytes.length < 4 then return none
  if (← readUInt8 bytes 0) ≠ 0xff then return none
  if (← readUInt8 bytes 1) ≠ 0xd8 then return none
  walkSegments bytes 2

/-- Three container variants, each with the dimensions at a different offset. -/
def probeWebp (bytes : Bytes) : Except RangeError (Option Dimensions) := do
  if bytes.length < 30 then return none
  if ascii (subarray bytes 0 4) ≠ "RIFF" then return none
  if ascii (subarray bytes 8 12) ≠ "WEBP" then return none
  let chunk := ascii (subarray bytes 12 16)
  if chunk = "VP8 " then
    if (← readUInt8 bytes 23) ≠ 0x9d then return none
    if (← readUInt8 bytes 24) ≠ 0x01 then return none
    if (← readUInt8 bytes 25) ≠ 0x2a then return none
    return some ⟨(← readUInt16LE bytes 26) &&& 0x3fff, (← readUInt16LE bytes 28) &&& 0x3fff⟩
  if chunk = "VP8L" then
    if (← readUInt8 bytes 20) ≠ 0x2f then return none
    let bits ← readUInt32LE bytes 21
    return some ⟨(bits &&& 0x3fff) + 1, ((bits >>> 14) &&& 0x3fff) + 1⟩
  if chunk = "VP8X" then
    -- 24-bit little-endian, stored as the dimension minus one
    let width := 1 + ((← readUInt8 bytes 24) ||| ((← readUInt8 bytes 25) <<< 8) |||
      ((← readUInt8 bytes 26) <<< 16))
    let height := 1 + ((← readUInt8 bytes 27) ||| ((← readUInt8 bytes 28) <<< 8) |||
      ((← readUInt8 bytes 29) <<< 16))
    return some ⟨width, height⟩
  return none

/-- `probeJpeg(bytes) ?? probePng(bytes) ?? probeWebp(bytes)`. -/
def probeDimensions (bytes : Bytes) : Except RangeError (Option Dimensions) := do
  if let some dimensions ← probeJpeg bytes then return some dimensions
  if let some dimensions ← probePng bytes then return some dimensions
  probeWebp bytes

/-! ### Reads stay inside -/

/-- One turn of the loop, with its reads carried out. -/
theorem walkSegments_eq {bytes : Bytes} {offset : Nat} (inside : offset + 3 < bytes.length) :
    walkSegments bytes offset =
      if byteAt bytes offset ≠ 0xff then walkSegments bytes (offset + 1)
      else if isStandalone (byteAt bytes (offset + 1)) then walkSegments bytes (offset + 2)
      else if byteAt bytes (offset + 1) = 0xda then .ok none
      else if wordAt bytes (offset + 2) < 2 then .ok none
      else if isSof (byteAt bytes (offset + 1)) then
        if offset + 9 ≥ bytes.length then .ok none
        else .ok (Dimensions.nonzero (wordAt bytes (offset + 7)) (wordAt bytes (offset + 5)))
      else walkSegments bytes (offset + 2 + wordAt bytes (offset + 2)) := by
  have first : readUInt8 bytes offset = .ok (byteAt bytes offset) := readUInt8_eq (by omega)
  have second : readUInt8 bytes (offset + 1) = .ok (byteAt bytes (offset + 1)) :=
    readUInt8_eq (by omega)
  have length : readUInt16BE bytes (offset + 2) = .ok (wordAt bytes (offset + 2)) :=
    readUInt16BE_eq (by omega)
  rw [walkSegments, if_pos inside]
  simp only [first, second, length, bind, Except.bind, pure, Except.pure]
  split
  · rfl
  · split
    · rfl
    · split
      · rfl
      · rw [if_neg (by omega)]
        split
        · rfl
        · split
          · split
            · rfl
            · rw [readUInt16BE_eq (by omega), readUInt16BE_eq (by omega)]
          · rfl

theorem walkSegments_done {bytes : Bytes} {offset : Nat} (done : ¬ offset + 3 < bytes.length) :
    walkSegments bytes offset = .ok none := by
  rw [walkSegments, if_neg done]
  rfl

theorem probeJpeg_eq {rest : Bytes} (long : 2 ≤ rest.length) :
    probeJpeg (0xff :: 0xd8 :: rest) = walkSegments (0xff :: 0xd8 :: rest) 2 := by
  have complete : ¬ (0xff :: 0xd8 :: rest : Bytes).length < 4 := by
    simp only [List.length_cons]
    omega
  rw [probeJpeg, if_neg complete]
  rfl

/-- No PNG begins with another byte than 0x89. -/
theorem probePng_of_byteAt {bytes : Bytes} (first : byteAt bytes 0 ≠ 0x89) :
    probePng bytes = .ok none := by
  unfold probePng
  split
  · rfl
  · rename_i long
    have second := byteAt_lt bytes 1
    have third := byteAt_lt bytes 2
    have fourth := byteAt_lt bytes 3
    have other : 65536 * wordAt bytes 0 + wordAt bytes (0 + 2) ≠ 0x89504e47 := by
      simp only [wordAt, Nat.zero_add, Nat.reduceAdd]
      omega
    rw [readUInt32BE_eq (by omega)]
    simp only [bind, Except.bind]
    rw [if_pos other]
    rfl

/-- No JPEG begins with another byte than 0xff. -/
theorem probeJpeg_of_byteAt {bytes : Bytes} (first : byteAt bytes 0 ≠ 0xff) :
    probeJpeg bytes = .ok none := by
  unfold probeJpeg
  split
  · rfl
  · rw [readUInt8_eq (by omega)]
    simp only [bind, Except.bind]
    rw [if_pos first]
    rfl

theorem byteAt_of_riff {bytes : Bytes} (riff : ascii (subarray bytes 0 4) = "RIFF") :
    byteAt bytes 0 % 128 = 0x52 := by
  rw [ascii_eq_iff] at riff
  cases bytes with
  | nil => simp [subarray] at riff
  | cons byte rest =>
    rw [subarray, List.drop_zero, List.take_succ_cons, List.map_cons] at riff
    exact List.head_eq_of_cons_eq riff

/-- No RIFF container begins with another character than R. -/
theorem probeWebp_of_byteAt {bytes : Bytes} (first : byteAt bytes 0 % 128 ≠ 0x52) :
    probeWebp bytes = .ok none := by
  unfold probeWebp
  split
  · rfl
  · rw [if_pos fun riff => first (byteAt_of_riff riff)]
    rfl

/-! ### What a probe returns -/

/-- The probe reads inside the buffer only, and what it returns has the property. -/
def Yields (result : Except RangeError (Option Dimensions)) (P : Dimensions → Prop) : Prop :=
  ∃ found, result = .ok found ∧ ∀ dimensions, found = some dimensions → P dimensions

def Dimensions.Positive (dimensions : Dimensions) : Prop :=
  1 ≤ dimensions.width ∧ 1 ≤ dimensions.height

theorem yields_none {P : Dimensions → Prop} : Yields (.ok none) P := ⟨none, rfl, nofun⟩

theorem yields_some {P : Dimensions → Prop} {dimensions : Dimensions} (holds : P dimensions) :
    Yields (.ok (some dimensions)) P :=
  ⟨some dimensions, rfl, by rintro _ ⟨⟩; exact holds⟩

theorem yields_nonzero (width height : Nat) :
    Yields (.ok (Dimensions.nonzero width height)) Dimensions.Positive := by
  unfold Dimensions.nonzero
  split
  · rename_i nonzero
    exact yields_some ⟨Nat.pos_of_ne_zero nonzero.1, Nat.pos_of_ne_zero nonzero.2⟩
  · exact yields_none

theorem yields_walkSegments (bytes : Bytes) (offset : Nat) :
    Yields (walkSegments bytes offset) Dimensions.Positive := by
  by_cases inside : offset + 3 < bytes.length
  · rw [walkSegments_eq inside]
    split_ifs
    · exact yields_walkSegments bytes (offset + 1)
    · exact yields_walkSegments bytes (offset + 2)
    · exact yields_none
    · exact yields_none
    · exact yields_none
    · exact yields_nonzero _ _
    · exact yields_walkSegments bytes _
  · rw [walkSegments_done inside]
    exact yields_none
termination_by bytes.length - offset

theorem yields_probeJpeg (bytes : Bytes) : Yields (probeJpeg bytes) Dimensions.Positive := by
  unfold probeJpeg
  split
  · exact yields_none
  · rw [readUInt8_eq (by omega), readUInt8_eq (by omega)]
    simp only [bind, Except.bind]
    split_ifs
    · exact yields_none
    · exact yields_none
    · exact yields_walkSegments bytes 2

theorem yields_probePng (bytes : Bytes) : Yields (probePng bytes) Dimensions.Positive := by
  unfold probePng
  split
  · exact yields_none
  · rw [readUInt32BE_eq (by omega), readUInt32BE_eq (by omega), readUInt32BE_eq (by omega),
      readUInt32BE_eq (by omega)]
    simp only [bind, Except.bind]
    split_ifs
    · exact yields_none
    · exact yields_none
    · exact yields_none
    · exact yields_nonzero _ _

/-- A lossy WebP header with a width or a height of zero. -/
structure EmptyLossy (bytes : Bytes) : Prop where
  complete : 30 ≤ bytes.length
  container : ascii (subarray bytes 0 4) = "RIFF" ∧ ascii (subarray bytes 8 12) = "WEBP"
  chunk : ascii (subarray bytes 12 16) = "VP8 "
  signature : byteAt bytes 23 = 0x9d ∧ byteAt bytes 24 = 0x01 ∧ byteAt bytes 25 = 0x2a
  empty : (256 * byteAt bytes 27 + byteAt bytes 26) &&& 0x3fff = 0 ∨
    (256 * byteAt bytes 29 + byteAt bytes 28) &&& 0x3fff = 0

theorem yields_probeWebp (bytes : Bytes) :
    Yields (probeWebp bytes) fun dimensions => dimensions.Positive ∨ EmptyLossy bytes := by
  unfold probeWebp
  split
  · exact yields_none
  · rename_i complete
    have inside : 21 + 3 < bytes.length := by omega
    obtain ⟨bits, read⟩ := readUInt32LE_isOk inside
    simp (disch := omega) only [readUInt8_eq, readUInt16LE_eq, read, bind, Except.bind, pure,
      Except.pure]
    split
    · exact yields_none
    · rename_i riff
      split
      · exact yields_none
      · rename_i webp
        split
        · rename_i lossy
          split_ifs with first second third
          · exact yields_none
          · exact yields_none
          · exact yields_none
          · apply yields_some
            by_cases positive : 1 ≤ (256 * byteAt bytes 27 + byteAt bytes 26) &&& 0x3fff ∧
                1 ≤ (256 * byteAt bytes 29 + byteAt bytes 28) &&& 0x3fff
            · exact .inl positive
            · exact .inr ⟨by omega, ⟨not_not.mp riff, not_not.mp webp⟩, lossy,
                ⟨not_not.mp first, not_not.mp second, not_not.mp third⟩, by omega⟩
        · split
          · split
            · exact yields_none
            · exact yields_some (.inl ⟨Nat.le_add_left _ _, Nat.le_add_left _ _⟩)
          · split
            · exact yields_some (.inl ⟨Nat.le_add_right _ _, Nat.le_add_right _ _⟩)
            · exact yields_none

/-- The lossy header passes for an image without an area. -/
theorem probeWebp_of_emptyLossy {bytes : Bytes} (header : EmptyLossy bytes) :
    ∃ dimensions, probeWebp bytes = .ok (some dimensions) ∧
      ¬ dimensions.Positive := by
  obtain ⟨complete, ⟨riff, webp⟩, chunk, ⟨first, second, third⟩, empty⟩ := header
  unfold probeWebp
  rw [if_neg (by omega), if_neg (not_not.mpr riff), if_neg (not_not.mpr webp), if_pos chunk]
  simp (disch := omega) only [readUInt8_eq, readUInt16LE_eq, bind, Except.bind, pure, Except.pure,
    first, second, third]
  refine ⟨_, rfl, ?_⟩
  rintro ⟨wide, high⟩
  dsimp only [Nat.reduceAdd] at wide high
  omega

theorem yields_probeDimensions (bytes : Bytes) :
    Yields (probeDimensions bytes) fun dimensions => dimensions.Positive ∨ EmptyLossy bytes := by
  obtain ⟨jpeg, jpeg_eq, jpeg_positive⟩ := yields_probeJpeg bytes
  obtain ⟨png, png_eq, png_positive⟩ := yields_probePng bytes
  unfold probeDimensions
  rw [jpeg_eq, png_eq]
  cases jpeg with
  | some dimensions => exact yields_some (.inl (jpeg_positive _ rfl))
  | none =>
    cases png with
    | some dimensions => exact yields_some (.inl (png_positive _ rfl))
    | none => exact yields_probeWebp bytes

theorem probeDimensions_of_emptyLossy {bytes : Bytes} (header : EmptyLossy bytes) :
    ∃ dimensions, probeDimensions bytes = .ok (some dimensions) ∧
      ¬ dimensions.Positive := by
  have first := byteAt_of_riff header.container.1
  have jpeg : probeJpeg bytes = .ok none := probeJpeg_of_byteAt (by omega)
  have png : probePng bytes = .ok none := probePng_of_byteAt (by omega)
  obtain ⟨dimensions, found, empty⟩ := probeWebp_of_emptyLossy header
  refine ⟨dimensions, ?_, empty⟩
  rw [probeDimensions, jpeg, png]
  exact found

end InferenceGateway
