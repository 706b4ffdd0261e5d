import InferenceGateway.Domain.Probe

/-!
# JPEG headers

The marker grammar `probeJpeg` follows, as a relation on the bytes that are
left, and the headers the standard allows before the frame.
-/

namespace InferenceGateway

open Library Buffer

section Grammar

variable {dimensions : Dimensions} {bytes : Bytes}

/-- The code reads the dimensions from these bytes: it skips what is no marker, standalone
markers and whole segments, up to a Start-Of-Frame. -/
inductive Spells (dimensions : Dimensions) : Bytes → Prop where
  | resync {byte : UInt8} {rest : Bytes} (gap : byte.toNat ≠ 0xff) (later : Spells dimensions rest) :
      Spells dimensions (byte :: rest)
  | standalone {marker : UInt8} {rest : Bytes} (alone : isStandalone marker.toNat = true)
      (later : Spells dimensions rest) : Spells dimensions (0xff :: marker :: rest)
  | segment {marker : UInt8} {rest : Bytes} (counted : isStandalone marker.toNat = false)
      (scan : marker.toNat ≠ 0xda) (plain : isSof marker.toNat = false)
      (long : 2 ≤ wordAt rest 0) (later : Spells dimensions (rest.drop (wordAt rest 0))) :
      Spells dimensions (0xff :: marker :: rest)
  | frame {marker : UInt8} {rest : Bytes} (sof : isSof marker.toNat = true)
      (long : 2 ≤ wordAt rest 0) (complete : 7 < rest.length)
      (spelled : Dimensions.nonzero (wordAt rest 5) (wordAt rest 3) = some dimensions) :
      Spells dimensions (0xff :: marker :: rest)

theorem Spells.long (spells : Spells dimensions bytes) : 10 ≤ bytes.length := by
  induction spells with
  | resync gap later inductionHypothesis => simp; omega
  | standalone alone later inductionHypothesis => simp; omega
  | segment counted scan plain long later inductionHypothesis =>
    simp only [List.length_drop, List.length_cons] at *
    omega
  | frame sof long complete spelled => simp; omega

theorem isStandalone_of_isSof {marker : Nat} (sof : isSof marker = true) :
    isStandalone marker = false ∧ marker ≠ 0xda := by
  simp [isSof, isStandalone] at *
  omega

/-! ### The loop follows the grammar -/

theorem spells_gap_iff {byte : UInt8} (gap : byte.toNat ≠ 0xff) :
    Spells dimensions (byte :: bytes) ↔ Spells dimensions bytes := by
  constructor
  · intro spells
    cases spells with
    | resync _ later => exact later
    | standalone | segment | frame => exact absurd rfl gap
  · exact .resync gap

theorem spells_marker_iff {marker : UInt8} :
    Spells dimensions (0xff :: marker :: bytes) ↔
      if isStandalone marker.toNat then Spells dimensions bytes
      else if marker.toNat = 0xda ∨ wordAt bytes 0 < 2 then False
      else if isSof marker.toNat then
        7 < bytes.length ∧ Dimensions.nonzero (wordAt bytes 5) (wordAt bytes 3) = some dimensions
      else Spells dimensions (bytes.drop (wordAt bytes 0)) := by
  constructor
  · intro spells
    cases spells with
    | resync gap => exact absurd rfl gap
    | standalone alone later => simpa [alone] using later
    | segment counted scan plain long later =>
      simpa [counted, scan, plain, Nat.not_lt.mpr long] using later
    | frame sof long complete spelled =>
      have marked := isStandalone_of_isSof sof
      simp [marked.1, marked.2, sof, Nat.not_lt.mpr long, complete, spelled]
  · intro continues
    split_ifs at continues with alone ends sof
    · exact .standalone alone continues
    · rw [not_or, not_lt] at ends
      exact .frame sof ends.2 continues.1 continues.2
    · rw [not_or, not_lt] at ends
      simp only [Bool.not_eq_true] at alone sof
      exact .segment alone ends.1 sof ends.2 continues

/-- The bytes from an offset with three more behind it. -/
theorem drop_of_inside {offset : Nat} (inside : offset + 3 < bytes.length) :
    ∃ first marker rest, bytes.drop offset = first :: marker :: rest ∧
      rest = bytes.drop (offset + 2) ∧ first.toNat = byteAt bytes offset ∧
      marker.toNat = byteAt bytes (offset + 1) := by
  refine ⟨bytes[offset], bytes[offset + 1], _, ?_, rfl, ?_, ?_⟩
  · rw [List.drop_eq_getElem_cons (by omega), List.drop_eq_getElem_cons (by omega)]
  · simp [byteAt, show offset < bytes.length by omega]
  · simp [byteAt, show offset + 1 < bytes.length by omega]

theorem walkSegments_iff (bytes : Bytes) (offset : Nat) :
    walkSegments bytes offset = .ok (some dimensions) ↔
      Spells dimensions (bytes.drop offset) := by
  by_cases inside : offset + 3 < bytes.length
  · obtain ⟨first, marker, rest, split, rest_eq, first_eq, marker_eq⟩ := drop_of_inside inside
    have next : marker :: rest = bytes.drop (offset + 1) := by
      rw [← List.tail_drop, split, List.tail_cons]
    have length : wordAt rest 0 = wordAt bytes (offset + 2) := by
      rw [rest_eq, wordAt_drop, Nat.add_zero]
    rw [walkSegments_eq inside, split, ← first_eq, ← marker_eq, ← length]
    split
    · rename_i gap
      rw [spells_gap_iff gap, next, walkSegments_iff bytes (offset + 1)]
    · rename_i fill
      have same : first = 0xff := UInt8.toNat_inj.mp (not_not.mp fill)
      have left : bytes.length = offset + 2 + rest.length := by
        rw [rest_eq, List.length_drop]
        omega
      rw [same, spells_marker_iff]
      split
      · rw [walkSegments_iff bytes (offset + 2), rest_eq]
      · by_cases scan : marker.toNat = 0xda
        · simp [scan]
        · by_cases short : wordAt rest 0 < 2
          · simp [scan, short]
          · by_cases sof : isSof marker.toNat = true
            · have height : wordAt bytes (offset + 5) = wordAt rest 3 := by
                rw [rest_eq, wordAt_drop]
              have width : wordAt bytes (offset + 7) = wordAt rest 5 := by
                rw [rest_eq, wordAt_drop]
              by_cases complete : 7 < rest.length
              · simp [scan, short, sof, complete, height, width,
                  show ¬ offset + 9 ≥ bytes.length by omega]
              · simp [scan, short, sof, complete, show offset + 9 ≥ bytes.length by omega]
            · simp only [scan, short, sof, if_false, or_self, Bool.false_eq_true]
              rw [walkSegments_iff bytes (offset + 2 + wordAt rest 0), rest_eq, List.drop_drop]
  · rw [walkSegments_done inside]
    simp only [Except.ok.injEq, reduceCtorEq, false_iff]
    intro spells
    have := spells.long
    simp at this
    omega
termination_by bytes.length - offset

end Grammar

/-! ### Images -/

/-- Two bytes, the high one first. -/
def bigEndian (n : Nat) : Bytes := [UInt8.ofNat (n / 256), UInt8.ofNat n]

/-- What may stand before the frame of an image, apart from fill bytes. -/
inductive JpegMarker where
  /-- A marker on its own. -/
  | standalone (marker : UInt8)
      (alone : marker.toNat = 0x01 ∨ 0xd0 ≤ marker.toNat ∧ marker.toNat ≤ 0xd7)
  /-- A marker with its payload, behind the length of both. -/
  | segment (marker : UInt8) (payload : Bytes) (fits : payload.length + 2 < 65536)
      (plain : isSof marker.toNat = false ∧ marker.toNat ∉ [0x00, 0x01, 0xd8, 0xd9, 0xda, 0xff] ∧
        ¬ (0xd0 ≤ marker.toNat ∧ marker.toNat ≤ 0xd7))

def JpegMarker.bytes : JpegMarker → Bytes
  | .standalone marker _ => [0xff, marker]
  | .segment marker payload _ _ => [0xff, marker] ++ bigEndian (payload.length + 2) ++ payload

/-- Fill bytes and a marker. -/
structure JpegItem where
  fill : Nat
  marker : JpegMarker

def JpegItem.bytes (item : JpegItem) : Bytes := List.replicate item.fill 0xff ++ item.marker.bytes

/-- Fill bytes and the Start-Of-Frame segment; `components` is what follows the dimensions. -/
structure JpegFrame where
  fill : Nat
  marker : UInt8
  sof : isSof marker.toNat = true
  precision : UInt8
  height : Nat
  width : Nat
  components : Bytes
  complete : 4 ≤ components.length
  fits : components.length + 7 < 65536
  height_pos : 0 < height ∧ height < 65536
  width_pos : 0 < width ∧ width < 65536

def JpegFrame.bytes (frame : JpegFrame) : Bytes :=
  List.replicate frame.fill 0xff ++ [0xff, frame.marker] ++ bigEndian (frame.components.length + 7) ++
    [frame.precision] ++ bigEndian frame.height ++ bigEndian frame.width ++ frame.components

/-- A JPEG image up to its frame, and whatever follows. -/
structure JpegImage where
  items : List JpegItem
  frame : JpegFrame
  rest : Bytes

namespace JpegImage

variable (image : JpegImage)

/-- The bytes from an item on. -/
def bytesFrom (items : List JpegItem) : Bytes :=
  items.flatMap JpegItem.bytes ++ image.frame.bytes ++ image.rest

def bytes : Bytes := [0xff, 0xd8] ++ image.bytesFrom image.items

def dimensions : Dimensions := ⟨image.frame.width, image.frame.height⟩

/-- No marker has a fill byte before it. -/
def Unfilled : Prop := (∀ item ∈ image.items, item.fill = 0) ∧ image.frame.fill = 0

/-- The bytes from an item on begin with a fill byte.  It passes for a marker and the two bytes
behind it for a length; the segment they make up ends, by chance, where the dimensions of the
image are spelled. -/
def MisreadAt (after : List JpegItem) : Prop :=
  ∃ high low later, image.bytesFrom after = 0xff :: 0xff :: high :: low :: later ∧
    Spells image.dimensions ((high :: low :: later).drop (256 * high.toNat + low.toNat))

/-- The first marker with a fill byte before it is misread, and the walk still ends well. -/
def Recovers : Prop :=
  ∃ before after, image.items = before ++ after ∧ (∀ item ∈ before, item.fill = 0) ∧
    image.MisreadAt after

end JpegImage

/-! ### Reading an image -/

theorem wordAt_bigEndian {n : Nat} (fits : n < 65536) (rest : Bytes) :
    wordAt (bigEndian n ++ rest) 0 = n := by
  simp only [bigEndian, wordAt, List.cons_append, List.nil_append, byteAt_zero, byteAt_succ,
    UInt8.toNat_ofNat']
  omega

theorem spells_item_iff {dimensions : Dimensions} {item : JpegItem} (unfilled : item.fill = 0)
    (rest : Bytes) :
    Spells dimensions (item.bytes ++ rest) ↔ Spells dimensions rest := by
  obtain ⟨fill, marker⟩ := item
  obtain rfl : fill = 0 := unfilled
  cases marker with
  | standalone marker alone =>
    have standalone : isStandalone marker.toNat = true := by
      simp only [isStandalone, Bool.or_eq_true, Bool.and_eq_true, decide_eq_true_eq]
      omega
    simp [JpegItem.bytes, JpegMarker.bytes, spells_marker_iff, standalone]
  | segment marker payload fits plain =>
    obtain ⟨sof, listed, restart⟩ := plain
    simp only [List.mem_cons, List.not_mem_nil, or_false, not_or] at listed
    have counted : isStandalone marker.toNat = false := by
      simp only [isStandalone, Bool.or_eq_false_iff, Bool.and_eq_false_iff, decide_eq_false_iff_not]
      omega
    have length := wordAt_bigEndian fits (payload ++ rest)
    have skipped : (bigEndian (payload.length + 2) ++ (payload ++ rest)).drop (payload.length + 2) =
        rest := by
      rw [← List.append_assoc]
      apply List.drop_left'
      simp [bigEndian]
    simp only [JpegItem.bytes, JpegMarker.bytes, List.replicate_zero, List.nil_append,
      List.cons_append, List.append_assoc]
    rw [spells_marker_iff, length, skipped]
    simp [counted, sof, listed]

theorem spells_frame_iff {dimensions : Dimensions} {frame : JpegFrame} (unfilled : frame.fill = 0)
    (rest : Bytes) :
    Spells dimensions (frame.bytes ++ rest) ↔ dimensions = ⟨frame.width, frame.height⟩ := by
  obtain ⟨fill, marker, sof, precision, height, width, components, complete, fits, high, wide⟩ :=
    frame
  obtain rfl : fill = 0 := unfilled
  have marked := isStandalone_of_isSof sof
  simp only [JpegFrame.bytes, List.replicate_zero, List.nil_append, List.cons_append,
    List.append_assoc]
  have tall : ∀ more, wordAt (bigEndian (components.length + 7) ++
      precision :: (bigEndian height ++ more)) 3 = height := fun more =>
    wordAt_bigEndian high.2 more
  have across : ∀ more, wordAt (bigEndian (components.length + 7) ++
      precision :: (bigEndian height ++ (bigEndian width ++ more))) 5 = width := fun more =>
    wordAt_bigEndian wide.2 more
  have long : 7 < (bigEndian (components.length + 7) ++
      precision :: (bigEndian height ++ (bigEndian width ++ (components ++ rest)))).length := by
    simp [bigEndian]
    omega
  have ends : ¬ (marker.toNat = 0xda ∨ components.length + 7 < 2) := by
    rw [not_or]
    exact ⟨marked.2, by omega⟩
  rw [spells_marker_iff, wordAt_bigEndian fits, tall, across, marked.1, if_neg (by simp),
    if_neg ends, if_pos sof, and_iff_right long]
  simp [Dimensions.nonzero, Nat.pos_iff_ne_zero.mp high.1, Nat.pos_iff_ne_zero.mp wide.1, eq_comm]

/-- The first fill byte is taken for a marker, the two bytes behind it for a length. -/
theorem spells_fill_iff {dimensions : Dimensions} {high low : UInt8} {later : Bytes}
    (long : 2 ≤ 256 * high.toNat + low.toNat) :
    Spells dimensions (0xff :: 0xff :: high :: low :: later) ↔
      Spells dimensions ((high :: low :: later).drop (256 * high.toNat + low.toNat)) := by
  rw [spells_marker_iff]
  have length : wordAt (high :: low :: later) 0 = 256 * high.toNat + low.toNat := rfl
  rw [length]
  simp [isStandalone, isSof, Nat.not_lt.mpr long]

namespace JpegImage

variable (image : JpegImage)

theorem bytesFrom_cons (item : JpegItem) (items : List JpegItem) :
    image.bytesFrom (item :: items) = item.bytes ++ image.bytesFrom items := by
  simp [bytesFrom]

/-- A fill byte and what is taken for a length. -/
theorem filled_eq (fill : Nat) {marker : UInt8} (nonzero : marker ≠ 0) (first : UInt8)
    (later : Bytes) :
    ∃ high low rest, high ≠ 0 ∧
      List.replicate (fill + 1) 0xff ++ 0xff :: marker :: first :: later =
        0xff :: 0xff :: high :: low :: rest := by
  rw [List.append_cons, ← List.replicate_succ', List.replicate_succ, List.replicate_succ]
  cases fill with
  | zero => exact ⟨marker, first, later, nonzero, rfl⟩
  | succ fill =>
    cases fill with
    | zero => exact ⟨0xff, marker, first :: later, by decide, rfl⟩
    | succ fill => exact ⟨0xff, 0xff, _, by decide, rfl⟩

/-- What a fill byte leads to. -/
theorem misreadAt_iff {items : List JpegItem} {high low : UInt8} {later : Bytes} (set : high ≠ 0)
    (bytes : image.bytesFrom items = 0xff :: 0xff :: high :: low :: later) :
    image.MisreadAt items ↔ Spells image.dimensions (image.bytesFrom items) := by
  have positive : 0 < high.toNat := by
    apply Nat.pos_of_ne_zero
    exact fun zero => set (UInt8.toNat_inj.mp zero)
  rw [bytes, spells_fill_iff (by omega)]
  constructor
  · rintro ⟨high', low', later', same, spells⟩
    rw [bytes] at same
    simp only [List.cons.injEq, true_and] at same
    obtain ⟨rfl, rfl, rfl⟩ := same
    exact spells
  · exact fun spells => ⟨high, low, later, bytes, spells⟩

theorem not_misreadAt {item : JpegItem} (unfilled : item.fill = 0) (items : List JpegItem) :
    ¬ image.MisreadAt (item :: items) := by
  rintro ⟨high, low, later, same, -⟩
  obtain ⟨fill, marker⟩ := item
  obtain rfl : fill = 0 := unfilled
  rw [bytesFrom_cons] at same
  cases marker with
  | standalone marker alone =>
    simp [JpegItem.bytes, JpegMarker.bytes] at same
    simp [same.1] at alone
  | segment marker payload fits plain =>
    simp [JpegItem.bytes, JpegMarker.bytes] at same
    simp [same.1] at plain

theorem bytesFrom_ne_nil (items : List JpegItem) : image.bytesFrom items ≠ [] := by
  simp [bytesFrom, JpegFrame.bytes]

theorem filled_item {item : JpegItem} (filled : item.fill ≠ 0) (items : List JpegItem) :
    ∃ high low later, high ≠ 0 ∧
      image.bytesFrom (item :: items) = 0xff :: 0xff :: high :: low :: later := by
  obtain ⟨fill, marker⟩ := item
  obtain ⟨more, rfl⟩ : ∃ more, fill = more + 1 := Nat.exists_eq_succ_of_ne_zero filled
  obtain ⟨first, later, next⟩ := List.exists_cons_of_ne_nil (image.bytesFrom_ne_nil items)
  rw [bytesFrom_cons, next, JpegItem.bytes, List.append_assoc]
  cases marker with
  | standalone marker alone =>
    apply filled_eq more
    rintro rfl
    simp at alone
  | segment marker payload fits plain =>
    apply filled_eq more
    rintro rfl
    simp at plain

theorem filled_frame (filled : image.frame.fill ≠ 0) :
    ∃ high low later, high ≠ 0 ∧
      image.bytesFrom [] = 0xff :: 0xff :: high :: low :: later := by
  obtain ⟨more, filled⟩ := Nat.exists_eq_succ_of_ne_zero filled
  simp only [bytesFrom, List.flatMap_nil, List.nil_append, JpegFrame.bytes, filled,
    List.append_assoc]
  apply filled_eq more
  intro zero
  have sof := image.frame.sof
  simp [zero, isSof] at sof

/-- The walk from an item on finds the frame when no marker is filled, and when the first
filled one is misread with luck. -/
theorem spells_bytesFrom (items : List JpegItem) :
    Spells image.dimensions (image.bytesFrom items) ↔
      ((∀ item ∈ items, item.fill = 0) ∧ image.frame.fill = 0) ∨
      ∃ before after, items = before ++ after ∧ (∀ item ∈ before, item.fill = 0) ∧
        image.MisreadAt after := by
  induction items with
  | nil =>
    simp only [List.nil_eq_append_iff, List.not_mem_nil, false_implies, implies_true, true_and]
    by_cases unfilled : image.frame.fill = 0
    · have spells : Spells image.dimensions (image.bytesFrom []) :=
        (spells_frame_iff unfilled image.rest).mpr rfl
      simp [unfilled, spells]
    · obtain ⟨high, low, later, set, bytes⟩ := image.filled_frame unfilled
      rw [← image.misreadAt_iff set bytes]
      simp [unfilled]
  | cons item items inductionHypothesis =>
    by_cases unfilled : item.fill = 0
    · rw [bytesFrom_cons, spells_item_iff unfilled, inductionHypothesis]
      constructor
      · rintro (⟨all, frame⟩ | ⟨before, after, rfl, all, misread⟩)
        · exact .inl ⟨List.forall_mem_cons.mpr ⟨unfilled, all⟩, frame⟩
        · exact .inr ⟨item :: before, after, rfl, List.forall_mem_cons.mpr ⟨unfilled, all⟩, misread⟩
      · rintro (⟨all, frame⟩ | ⟨before, after, split, all, misread⟩)
        · exact .inl ⟨(List.forall_mem_cons.mp all).2, frame⟩
        · cases before with
          | nil => exact absurd (split ▸ misread) (image.not_misreadAt unfilled items)
          | cons first before =>
            rw [List.cons_append, List.cons.injEq] at split
            exact .inr ⟨before, after, split.2, (List.forall_mem_cons.mp all).2, misread⟩
    · obtain ⟨high, low, later, set, bytes⟩ := image.filled_item unfilled items
      rw [← image.misreadAt_iff set bytes]
      constructor
      · exact fun misread => .inr ⟨[], _, rfl, by simp, misread⟩
      · rintro (⟨all, -⟩ | ⟨before, after, split, all, misread⟩)
        · exact absurd (all item (.head _)) unfilled
        · cases before with
          | nil => exact split ▸ misread
          | cons first before =>
            rw [List.cons_append, List.cons.injEq] at split
            exact absurd (split.1 ▸ all first (.head _)) unfilled

end JpegImage

/-- The probe finds the frame of an image exactly when none of its markers has a fill byte
before it, or the first one that has is misread with luck. -/
theorem frame_found (image : JpegImage) :
    probeDimensions image.bytes = .ok (some image.dimensions) ↔
      image.Unfilled ∨ image.Recovers := by
  have long : 2 ≤ (image.bytesFrom image.items).length := by
    simp only [JpegImage.bytesFrom, JpegFrame.bytes, List.length_append, List.length_cons]
    omega
  have jpeg : probeJpeg image.bytes = walkSegments image.bytes 2 := probeJpeg_eq long
  have png : probePng image.bytes = .ok none := probePng_of_byteAt (by simp [JpegImage.bytes])
  have webp : probeWebp image.bytes = .ok none := probeWebp_of_byteAt (by simp [JpegImage.bytes])
  have walk : walkSegments image.bytes 2 = .ok (some image.dimensions) ↔
      image.Unfilled ∨ image.Recovers := by
    rw [walkSegments_iff]
    exact image.spells_bytesFrom image.items
  rw [← walk, probeDimensions, jpeg, png, webp]
  obtain ⟨found, walked, -⟩ := yields_walkSegments image.bytes 2
  rw [walked]
  cases found <;> simp [bind, Except.bind, pure, Except.pure]

/-- A frame of 640 by 480 with a fill byte before its marker. -/
def sampleFilled : JpegImage where
  items := [⟨0, .segment 0xe0 [0x4a, 0x46, 0x49, 0x46, 0] (by decide) (by decide)⟩]
  frame := {
    fill := 1
    marker := 0xc0
    sof := rfl
    precision := 8
    height := 480
    width := 640
    components := [1, 1, 0x11, 0]
    complete := Nat.le_refl _
    fits := by decide
    height_pos := by decide
    width_pos := by decide }
  rest := []

theorem not_frame_found :
    ¬ ∀ image : JpegImage, probeDimensions image.bytes = .ok (some image.dimensions) := by
  intro found
  have missed : probeDimensions sampleFilled.bytes = .ok none := by decide +kernel
  rw [found sampleFilled] at missed
  cases missed

end InferenceGateway
