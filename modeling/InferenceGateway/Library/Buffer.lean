import Mathlib.Data.List.Basic

/-!
# Byte buffers

Unsigned integers at an offset of a sequence of bytes.  A read checks its range:
one that does not fit raises an error instead of reading past the end.
-/

namespace InferenceGateway.Library

inductive RangeError where
  | outOfRange
  deriving DecidableEq, Repr

namespace Buffer

/-- The byte at an index, 0 behind the end. -/
def byteAt (bytes : List UInt8) (offset : Nat) : Nat := (bytes[offset]?.getD 0).toNat

/-- The 16-bit big-endian number at an index. -/
def wordAt (bytes : List UInt8) (offset : Nat) : Nat :=
  256 * byteAt bytes offset + byteAt bytes (offset + 1)

def readUInt8 (bytes : List UInt8) (offset : Nat) : Except RangeError Nat :=
  match bytes[offset]? with
  | some byte => .ok byte.toNat
  | none => .error .outOfRange

def readUInt16BE (bytes : List UInt8) (offset : Nat) : Except RangeError Nat := do
  let high ← readUInt8 bytes offset
  let low ← readUInt8 bytes (offset + 1)
  return 256 * high + low

def readUInt16LE (bytes : List UInt8) (offset : Nat) : Except RangeError Nat := do
  let low ← readUInt8 bytes offset
  let high ← readUInt8 bytes (offset + 1)
  return 256 * high + low

def readUInt32BE (bytes : List UInt8) (offset : Nat) : Except RangeError Nat := do
  let high ← readUInt16BE bytes offset
  let low ← readUInt16BE bytes (offset + 2)
  return 65536 * high + low

def readUInt32LE (bytes : List UInt8) (offset : Nat) : Except RangeError Nat := do
  let low ← readUInt16LE bytes offset
  let high ← readUInt16LE bytes (offset + 2)
  return 65536 * high + low

/-- The bytes from `start` up to `finish`, fewer when the buffer ends before. -/
def subarray (bytes : List UInt8) (start finish : Nat) : List UInt8 :=
  (bytes.take finish).drop start

/-- Decoding as ASCII clears the top bit of every byte. -/
def ascii (bytes : List UInt8) : String :=
  String.ofList (bytes.map fun byte => Char.ofNat (byte.toNat % 128))

/-- The bytes have a run at an offset. -/
def HasAt (bytes : List UInt8) (offset : Nat) (run : List UInt8) : Prop := run <+: bytes.drop offset

instance (bytes : List UInt8) (offset : Nat) (run : List UInt8) :
    Decidable (HasAt bytes offset run) :=
  inferInstanceAs (Decidable (run <+: bytes.drop offset))

def clearTopBit (byte : UInt8) : UInt8 := byte &&& 0x7f

/-! ### Reads that fit -/

section Reads

variable {bytes : List UInt8} {offset : Nat}

theorem byteAt_lt (bytes : List UInt8) (offset : Nat) : byteAt bytes offset < 256 :=
  UInt8.toNat_lt _

@[simp] theorem byteAt_zero (byte : UInt8) (rest : List UInt8) :
    byteAt (byte :: rest) 0 = byte.toNat := rfl

@[simp] theorem byteAt_succ (byte : UInt8) (rest : List UInt8) (i : Nat) :
    byteAt (byte :: rest) (i + 1) = byteAt rest i := rfl

theorem byteAt_drop (bytes : List UInt8) (offset i : Nat) :
    byteAt (bytes.drop offset) i = byteAt bytes (offset + i) := by
  simp [byteAt]

theorem wordAt_drop (bytes : List UInt8) (offset i : Nat) :
    wordAt (bytes.drop offset) i = wordAt bytes (offset + i) := by
  simp only [wordAt, byteAt_drop, Nat.add_assoc]

theorem readUInt8_eq (inside : offset < bytes.length) :
    readUInt8 bytes offset = .ok (byteAt bytes offset) := by
  simp [readUInt8, byteAt, inside]

theorem readUInt16BE_eq (inside : offset + 1 < bytes.length) :
    readUInt16BE bytes offset = .ok (wordAt bytes offset) := by
  have first : offset < bytes.length := by omega
  simp [readUInt16BE, wordAt, readUInt8_eq inside, readUInt8_eq first, pure, Except.pure, bind,
    Except.bind]

theorem readUInt16LE_eq (inside : offset + 1 < bytes.length) :
    readUInt16LE bytes offset = .ok (256 * byteAt bytes (offset + 1) + byteAt bytes offset) := by
  have first : offset < bytes.length := by omega
  simp [readUInt16LE, readUInt8_eq inside, readUInt8_eq first, pure, Except.pure, bind,
    Except.bind]

theorem readUInt32BE_eq (inside : offset + 3 < bytes.length) :
    readUInt32BE bytes offset =
      .ok (65536 * wordAt bytes offset + wordAt bytes (offset + 2)) := by
  have low : offset + 2 + 1 < bytes.length := by omega
  have high : offset + 1 < bytes.length := by omega
  simp [readUInt32BE, readUInt16BE_eq low, readUInt16BE_eq high, pure, Except.pure, bind,
    Except.bind]

theorem readUInt32LE_isOk (inside : offset + 3 < bytes.length) :
    ∃ value, readUInt32LE bytes offset = .ok value := by
  have high : offset + 2 + 1 < bytes.length := by omega
  have low : offset + 1 < bytes.length := by omega
  simp [readUInt32LE, readUInt16LE_eq low, readUInt16LE_eq high, pure, Except.pure, bind,
    Except.bind]

end Reads

/-- Text is told apart by its codes only, each byte counting without its top bit. -/
theorem ascii_eq_iff {bytes : List UInt8} {text : String} :
    ascii bytes = text ↔ bytes.map (fun byte => byte.toNat % 128) = text.toList.map Char.toNat := by
  have codes : (bytes.map fun byte => Char.ofNat (byte.toNat % 128)).map Char.toNat =
      bytes.map fun byte => byte.toNat % 128 := by
    rw [List.map_map]
    apply List.map_congr_left
    intro byte _
    have valid : (byte.toNat % 128).isValidChar := .inl (by omega)
    rw [Function.comp_apply, Char.ofNat, dif_pos valid]
    rfl
  rw [← codes, ascii]
  constructor
  · rintro rfl
    rw [String.toList_ofList]
  · intro same
    have lists := List.map_injective_iff.mpr (fun _ _ => Char.toNat_inj.mp) same
    rw [lists, String.ofList_toList]

/-! ### Runs -/

section Runs

variable {bytes : List UInt8} {offset : Nat}

@[simp] theorem hasAt_nil : HasAt bytes offset [] := List.nil_prefix

theorem hasAt_cons_iff {byte : UInt8} {run : List UInt8} :
    HasAt bytes offset (byte :: run) ↔
      offset < bytes.length ∧ byteAt bytes offset = byte.toNat ∧ HasAt bytes (offset + 1) run := by
  unfold HasAt
  by_cases inside : offset < bytes.length
  · have first : byteAt bytes offset = bytes[offset].toNat := by simp [byteAt, inside]
    rw [List.drop_eq_getElem_cons inside, List.cons_prefix_cons, first, UInt8.toNat_inj,
      eq_comm (a := byte)]
    simp [inside]
  · rw [List.drop_eq_nil_of_le (by omega)]
    simp [inside]

theorem subarray_eq_iff {finish : Nat} {run : List UInt8} (span : offset + run.length = finish) :
    subarray bytes offset finish = run ↔ HasAt bytes offset run := by
  subst span
  rw [subarray, List.drop_take, Nat.add_sub_cancel_left, HasAt, List.prefix_iff_eq_take, eq_comm]

theorem toNat_clearTopBit (byte : UInt8) : (clearTopBit byte).toNat = byte.toNat % 128 := by
  rw [clearTopBit, UInt8.toNat_and]
  exact Nat.and_two_pow_sub_one_eq_mod byte.toNat 7

theorem byteAt_clearTopBit (bytes : List UInt8) (offset : Nat) :
    byteAt (bytes.map clearTopBit) offset = byteAt bytes offset % 128 := by
  rw [byteAt, byteAt, List.getElem?_map]
  cases bytes[offset]? with
  | none => rfl
  | some byte => exact toNat_clearTopBit byte

/-- Text decoded from a part of the buffer, with the codes it spells. -/
theorem ascii_subarray_iff {finish : Nat} {text : String} {run : List UInt8}
    (span : offset + run.length = finish)
    (codes : run.map UInt8.toNat = text.toList.map Char.toNat) :
    ascii (subarray bytes offset finish) = text ↔ HasAt (bytes.map clearTopBit) offset run := by
  have cleared : (subarray bytes offset finish).map (fun byte => byte.toNat % 128) =
      (subarray (bytes.map clearTopBit) offset finish).map UInt8.toNat := by
    rw [subarray, subarray, ← List.map_take, ← List.map_drop, List.map_map]
    exact List.map_congr_left fun byte _ => (toNat_clearTopBit byte).symm
  rw [ascii_eq_iff, cleared, ← codes, ← subarray_eq_iff span]
  exact (List.map_injective_iff.mpr fun _ _ => UInt8.toNat_inj.mp).eq_iff

end Runs

end Buffer

end InferenceGateway.Library
