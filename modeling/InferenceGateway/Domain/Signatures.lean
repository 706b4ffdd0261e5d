import InferenceGateway.Domain.Inputs
import InferenceGateway.Domain.Probe

/-!
# Signatures

The bytes a format is told by, which buffers `readImage` takes for an image of
it, and which parser the dimensions of such a buffer come from.
-/

namespace InferenceGateway

open Library Buffer

/-- The signature of a format. -/
def ImageFormat.Signature : ImageFormat → Bytes → Prop
  | .jpeg, bytes => HasAt bytes 0 [0xff, 0xd8, 0xff]
  | .png, bytes => HasAt bytes 0 [0x89, 0x50, 0x4e, 0x47, 0x0d, 0x0a, 0x1a, 0x0a]
  | .webp, bytes => HasAt bytes 0 [0x52, 0x49, 0x46, 0x46] ∧ HasAt bytes 8 [0x57, 0x45, 0x42, 0x50]

instance (format : ImageFormat) (bytes : Bytes) : Decidable (format.Signature bytes) :=
  match format with
  | .jpeg => inferInstanceAs (Decidable (HasAt bytes 0 _))
  | .png => inferInstanceAs (Decidable (HasAt bytes 0 _))
  | .webp => inferInstanceAs (Decidable (HasAt bytes 0 _ ∧ HasAt bytes 8 _))

/-- The parser of a format. -/
def ImageFormat.probe : ImageFormat → Bytes → Except RangeError (Option Dimensions)
  | .jpeg => probeJpeg
  | .png => probePng
  | .webp => probeWebp

/-- With its top bits cleared the buffer has the signature of a WebP, but some byte in the place
of the signature has its top bit set. -/
structure Masked (bytes : Bytes) : Prop where
  cleared : ImageFormat.webp.Signature (bytes.map clearTopBit)
  set : ∃ offset ∈ [0, 1, 2, 3, 8, 9, 10, 11], 128 ≤ byteAt bytes offset

instance (bytes : Bytes) : Decidable (Masked bytes) :=
  decidable_of_iff (ImageFormat.webp.Signature (bytes.map clearTopBit) ∧
    ∃ offset ∈ [0, 1, 2, 3, 8, 9, 10, 11], 128 ≤ byteAt bytes offset)
    ⟨fun both => ⟨both.1, both.2⟩, fun masked => ⟨masked.cleared, masked.set⟩⟩

/-- The checks of the sniffer let the buffer through as an image of the format. -/
def ImageFormat.Passes (format : ImageFormat) (bytes : Bytes) : Prop :=
  format.Signature bytes ∨ format = .webp ∧ Masked bytes

variable {bytes : Bytes}

/-! ### The checks -/

theorem jpeg_checked_iff :
    (bytes.length ≥ 3 ∧ byteAt bytes 0 = 0xff ∧ byteAt bytes 1 = 0xd8 ∧ byteAt bytes 2 = 0xff) ↔
      ImageFormat.jpeg.Signature bytes := by
  simp only [ImageFormat.Signature, hasAt_cons_iff, hasAt_nil, and_true, Nat.zero_add,
    Nat.reduceAdd, UInt8.reduceToNat]
  omega

theorem png_checked_iff :
    (bytes.length ≥ 8 ∧
      subarray bytes 0 8 = [0x89, 0x50, 0x4e, 0x47, 0x0d, 0x0a, 0x1a, 0x0a]) ↔
      ImageFormat.png.Signature bytes := by
  rw [subarray_eq_iff (by rfl), ImageFormat.Signature]
  constructor
  · exact And.right
  · intro signed
    exact ⟨signed.length_le, signed⟩

/-- The text comparisons see the buffer with its top bits cleared. -/
theorem webp_checked_iff :
    (bytes.length ≥ 12 ∧ ascii (subarray bytes 0 4) = "RIFF" ∧
      ascii (subarray bytes 8 12) = "WEBP") ↔
      ImageFormat.webp.Signature (bytes.map clearTopBit) := by
  have riff : ascii (subarray bytes 0 4) = "RIFF" ↔
      HasAt (bytes.map clearTopBit) 0 [0x52, 0x49, 0x46, 0x46] :=
    ascii_subarray_iff rfl (by decide)
  have webp : ascii (subarray bytes 8 12) = "WEBP" ↔
      HasAt (bytes.map clearTopBit) 8 [0x57, 0x45, 0x42, 0x50] :=
    ascii_subarray_iff rfl (by decide)
  rw [riff, webp]
  constructor
  · exact And.right
  · intro signed
    refine ⟨?_, signed⟩
    have long := signed.2.length_le
    simp only [List.length_cons, List.length_nil, List.length_drop, List.length_map] at long
    omega

/-! ### Top bits -/

theorem cleared_of_webp (signed : ImageFormat.webp.Signature bytes) :
    ImageFormat.webp.Signature (bytes.map clearTopBit) := by
  simp only [ImageFormat.Signature, hasAt_cons_iff, hasAt_nil, and_true, byteAt_clearTopBit,
    List.length_map, Nat.zero_add, Nat.reduceAdd, UInt8.reduceToNat] at signed ⊢
  omega

/-- A buffer that has the signature once its top bits are cleared has it as it stands exactly
when they were clear. -/
theorem webp_iff_of_cleared (cleared : ImageFormat.webp.Signature (bytes.map clearTopBit)) :
    ImageFormat.webp.Signature bytes ↔ ¬ Masked bytes := by
  have masked : Masked bytes ↔
      ∃ offset ∈ [0, 1, 2, 3, 8, 9, 10, 11], 128 ≤ byteAt bytes offset :=
    ⟨Masked.set, fun set => ⟨cleared, set⟩⟩
  rw [masked]
  simp only [ImageFormat.Signature, hasAt_cons_iff, hasAt_nil, and_true, byteAt_clearTopBit,
    List.length_map, Nat.zero_add, Nat.reduceAdd, UInt8.reduceToNat] at cleared ⊢
  simp only [List.mem_cons, List.not_mem_nil, or_false, exists_eq_or_imp, exists_eq_left]
  omega

theorem cleared_iff :
    ImageFormat.webp.Signature (bytes.map clearTopBit) ↔
      ImageFormat.webp.Signature bytes ∨ Masked bytes := by
  constructor
  · intro cleared
    by_cases masked : Masked bytes
    · exact .inr masked
    · exact .inl ((webp_iff_of_cleared cleared).mpr masked)
  · rintro (signed | masked)
    · exact cleared_of_webp signed
    · exact masked.cleared

/-! ### First bytes -/

/-- The first byte of the signature, without its top bit. -/
def ImageFormat.lead : ImageFormat → Nat
  | .jpeg => 0x7f
  | .png => 0x09
  | .webp => 0x52

theorem lead_injective : Function.Injective ImageFormat.lead := by
  intro first second same
  cases first <;> cases second <;> first | rfl | cases same

theorem lead_of_passes {format : ImageFormat} (passes : format.Passes bytes) :
    byteAt bytes 0 % 128 = format.lead := by
  cases format with
  | jpeg =>
    have signed : ImageFormat.jpeg.Signature bytes := by simpa [ImageFormat.Passes] using passes
    rw [(hasAt_cons_iff.mp signed).2.1]
    rfl
  | png =>
    have signed : ImageFormat.png.Signature bytes := by simpa [ImageFormat.Passes] using passes
    rw [(hasAt_cons_iff.mp signed).2.1]
    rfl
  | webp =>
    have cleared := cleared_iff.mpr (by simpa [ImageFormat.Passes] using passes)
    rw [← byteAt_clearTopBit]
    exact (hasAt_cons_iff.mp cleared.1).2.1

theorem ImageFormat.Passes.unique {first second : ImageFormat} (passes : first.Passes bytes)
    (passes' : second.Passes bytes) : first = second :=
  lead_injective ((lead_of_passes passes).symm.trans (lead_of_passes passes'))

theorem ImageFormat.Passes.some_iff {first second : ImageFormat} (passes : first.Passes bytes) :
    some first = some second ↔ second.Passes bytes := by
  rw [Option.some_inj]
  constructor
  · rintro rfl
    exact passes
  · exact passes.unique

/-- The parser of a format looks at the first byte of the signature. -/
theorem probe_of_lead {format : ImageFormat} (other : byteAt bytes 0 % 128 ≠ format.lead) :
    format.probe bytes = .ok none := by
  cases format with
  | jpeg =>
    apply probeJpeg_of_byteAt
    intro first
    exact other (by rw [first]; rfl)
  | png =>
    apply probePng_of_byteAt
    intro first
    exact other (by rw [first]; rfl)
  | webp => exact probeWebp_of_byteAt other

/-! ### What is accepted -/

/-- The fall-through order does not matter: no buffer passes for two formats. -/
theorem sniff_iff {format : ImageFormat} : sniff bytes = some format ↔ format.Passes bytes := by
  have jpeg_iff : ImageFormat.jpeg.Passes bytes ↔ ImageFormat.jpeg.Signature bytes := by
    simp [ImageFormat.Passes]
  have png_iff : ImageFormat.png.Passes bytes ↔ ImageFormat.png.Signature bytes := by
    simp [ImageFormat.Passes]
  have webp_iff : ImageFormat.webp.Passes bytes ↔
      ImageFormat.webp.Signature (bytes.map clearTopBit) := by
    simp [ImageFormat.Passes, cleared_iff]
  unfold sniff
  rw [if_congr jpeg_checked_iff rfl (if_congr png_checked_iff rfl
    (if_congr webp_checked_iff rfl rfl))]
  split_ifs with jpeg png webp
  · exact (jpeg_iff.mpr jpeg).some_iff
  · exact (png_iff.mpr png).some_iff
  · exact (webp_iff.mpr webp).some_iff
  · constructor
    · nofun
    · intro passes
      cases format with
      | jpeg => exact absurd (jpeg_iff.mp passes) jpeg
      | png => exact absurd (png_iff.mp passes) png
      | webp => exact absurd (webp_iff.mp passes) webp

section Reading

variable {platform : Platform} {maxBytes : Nat}

/-- Within the size cap an image is what the sniffer knows. -/
theorem readImage_iff (within : bytes.length ≤ maxBytes) {format : ImageFormat} :
    (∃ image, readImage platform bytes maxBytes = .ok image ∧ image.format = format) ↔
      sniff bytes = some format := by
  unfold readImage
  split
  · rename_i empty
    obtain rfl := List.length_eq_zero_iff.mp empty
    simp [sniff]
  · rw [if_neg (by omega)]
    split
    · rename_i unknown
      simp [unknown]
    · rename_i known
      simp [known]

end Reading

/-! ### The two sniffers agree -/

/-- Of a buffer the sniffer knows, only the parser of its format reads dimensions. -/
theorem probe_of_passes {format other : ImageFormat} (passes : format.Passes bytes)
    (different : other ≠ format) : other.probe bytes = .ok none := by
  apply probe_of_lead
  rw [lead_of_passes passes]
  exact fun same => different (lead_injective same.symm)

theorem probeDimensions_of_passes {format : ImageFormat} (passes : format.Passes bytes) :
    probeDimensions bytes = format.probe bytes := by
  have jpeg (different : ImageFormat.jpeg ≠ format) : probeJpeg bytes = .ok none :=
    probe_of_passes passes different
  have png (different : ImageFormat.png ≠ format) : probePng bytes = .ok none :=
    probe_of_passes passes different
  have webp (different : ImageFormat.webp ≠ format) : probeWebp bytes = .ok none :=
    probe_of_passes passes different
  unfold probeDimensions
  cases format with
  | jpeg =>
    rw [png (by decide), webp (by decide)]
    obtain ⟨found, read, -⟩ := yields_probeJpeg bytes
    rw [ImageFormat.probe, read]
    cases found <;> rfl
  | png =>
    rw [jpeg (by decide), webp (by decide)]
    obtain ⟨found, read, -⟩ := yields_probePng bytes
    rw [ImageFormat.probe, read]
    cases found <;> rfl
  | webp =>
    rw [jpeg (by decide), png (by decide)]
    rfl

/-- `readImage` accepts exactly the signatures, and what `probeDimensions` finds in a buffer it
accepts was read by the parser of the same format and by no other. -/
structure FormatsExact (platform : Platform) (maxBytes : Nat) (bytes : Bytes) : Prop where
  accepted : ∀ format, (∃ image, readImage platform bytes maxBytes = .ok image ∧
    image.format = format) ↔ format.Signature bytes
  refused : (∃ message, readImage platform bytes maxBytes = .error message) ↔
    ∀ format : ImageFormat, ¬ format.Signature bytes
  agreed : ∀ image dimensions, readImage platform bytes maxBytes = .ok image →
    probeDimensions bytes = .ok (some dimensions) →
      ∀ format : ImageFormat,
        format.probe bytes = .ok (some dimensions) ↔ format = image.format

theorem passes_of_readImage {platform : Platform} {maxBytes : Nat}
    (within : bytes.length ≤ maxBytes) {image : DecodedImage}
    (read : readImage platform bytes maxBytes = .ok image) : image.format.Passes bytes :=
  sniff_iff.mp ((readImage_iff within).mp ⟨image, read, rfl⟩)

theorem formats_exact (platform : Platform) {maxBytes : Nat} (within : bytes.length ≤ maxBytes) :
    FormatsExact platform maxBytes bytes ↔ ¬ Masked bytes := by
  have accepts (format : ImageFormat) :
      (∃ image, readImage platform bytes maxBytes = .ok image ∧ image.format = format) ↔
        format.Passes bytes :=
    (readImage_iff within).trans sniff_iff
  constructor
  · intro exactly masked
    have signed := (exactly.accepted .webp).mp ((accepts .webp).mpr (.inr ⟨rfl, masked⟩))
    exact (webp_iff_of_cleared masked.cleared).mp signed masked
  · intro clear
    have passes_iff (format : ImageFormat) : format.Passes bytes ↔ format.Signature bytes := by
      simp [ImageFormat.Passes, clear]
    refine ⟨fun format => (accepts format).trans (passes_iff format), ?_, ?_⟩
    · constructor
      · rintro ⟨message, refused⟩ format signed
        obtain ⟨image, read, -⟩ := (accepts format).mpr ((passes_iff format).mpr signed)
        rw [refused] at read
        cases read
      · intro unsigned
        cases read : readImage platform bytes maxBytes with
        | error message => exact ⟨message, rfl⟩
        | ok image =>
          have passes := passes_of_readImage within read
          exact absurd ((passes_iff image.format).mp passes) (unsigned image.format)
    · intro image dimensions read probed format
      have passes := passes_of_readImage within read
      rw [probeDimensions_of_passes passes] at probed
      constructor
      · intro found
        by_contra different
        rw [probe_of_passes passes different] at found
        cases found
      · rintro rfl
        exact probed

def samplePng : Bytes := [0x89, 0x50, 0x4e, 0x47, 0x0d, 0x0a, 0x1a, 0x0a]

theorem formats_exact_sample :
    samplePng.length ≤ 8 ∧ FormatsExact Platform.counting 8 samplePng :=
  ⟨by decide, (formats_exact Platform.counting (by decide)).mpr (by decide)⟩

/-- A lossless WebP header of 16 by 16, with the top bit of its first byte set. -/
def sampleMasked : Bytes :=
  [0xd2, 0x49, 0x46, 0x46, 22, 0, 0, 0, 0x57, 0x45, 0x42, 0x50, 0x56, 0x50, 0x38, 0x4c, 10, 0, 0, 0,
    0x2f, 15, 0xc0, 3, 0, 0, 0, 0, 0, 0]

theorem not_formats_exact : ¬ ∀ (platform : Platform) (maxBytes : Nat) (bytes : Bytes),
    bytes.length ≤ maxBytes → FormatsExact platform maxBytes bytes := by
  intro claimed
  have exactly := claimed Platform.counting 30 sampleMasked (by decide)
  have known : sniff sampleMasked = some .webp := by decide +kernel
  have signed := (exactly.accepted .webp).mp ((readImage_iff (by decide)).mpr known)
  exact absurd signed (by decide)

end InferenceGateway
