import Mathlib.Init

/-!
# Byte order helpers

The big-endian readers and writers of `ovnc_internal.h`. A pointer into a buffer
is the list of the bytes from there on, so `&buf[k]` is `buf.drop k`; a writer
gives the bytes it stores. Reading back what was written is exact for every value,
signed ones included.
-/

namespace OpenVnc

/-- `ovnc__read_u16`. A short buffer reads as zero; no caller passes one. -/
def readU16 : List UInt8 → UInt16
  | p0 :: p1 :: _ => p0.toUInt16 <<< 8 ||| p1.toUInt16
  | _ => 0

/-- `ovnc__read_u32`. The bytes come with the most significant one first. -/
def readU32 : List UInt8 → UInt32
  | p0 :: p1 :: p2 :: p3 :: _ =>
      p0.toUInt32 <<< 24 ||| p1.toUInt32 <<< 16 ||| p2.toUInt32 <<< 8 ||| p3.toUInt32
  | _ => 0

/-- `ovnc__read_s32`: the same four bytes taken as a signed value. -/
def readS32 (p : List UInt8) : Int32 := (readU32 p).toInt32

/-- `ovnc__write_u16`. The low byte is what is left of the value when it is cut to eight bits.
-/
def writeU16 (val : UInt16) : List UInt8 := [(val >>> 8).toUInt8, val.toUInt8]

/-- `ovnc__write_u32`. -/
def writeU32 (val : UInt32) : List UInt8 :=
  [(val >>> 24).toUInt8, (val >>> 16).toUInt8, (val >>> 8).toUInt8, val.toUInt8]

/-- `ovnc__write_s32`. -/
def writeS32 (val : Int32) : List UInt8 := writeU32 val.toUInt32

/-- Two bytes for a number of 16 bits. -/
@[simp] theorem writeU16_length (val : UInt16) : (writeU16 val).length = 2 := rfl

/-- Four bytes for a number of 32 bits. -/
@[simp] theorem writeU32_length (val : UInt32) : (writeU32 val).length = 4 := rfl

/-- Four bytes for a signed number of 32 bits. -/
@[simp] theorem writeS32_length (val : Int32) : (writeS32 val).length = 4 := rfl

/-- The two bytes of a 16-bit value rebuild it: each bit lies in exactly one byte. What follows
them does not matter. -/
@[simp] theorem readU16_writeU16 (val : UInt16) (rest : List UInt8) :
    readU16 (writeU16 val ++ rest) = val := by
  apply UInt16.toBitVec_inj.mp
  apply BitVec.eq_of_getLsbD_eq
  intro bit bound
  simp only [writeU16, readU16, List.cons_append, UInt16.toBitVec_or, UInt16.toBitVec_shiftLeft,
    UInt8.toBitVec_toUInt16, UInt16.toBitVec_toUInt8, UInt16.toBitVec_shiftRight,
    BitVec.getLsbD_or]
  simp
  grind

/-- The four bytes of a 32-bit value rebuild it. -/
@[simp] theorem readU32_writeU32 (val : UInt32) (rest : List UInt8) :
    readU32 (writeU32 val ++ rest) = val := by
  apply UInt32.toBitVec_inj.mp
  apply BitVec.eq_of_getLsbD_eq
  intro bit bound
  simp only [writeU32, readU32, List.cons_append, UInt32.toBitVec_or, UInt32.toBitVec_shiftLeft,
    UInt8.toBitVec_toUInt32, UInt32.toBitVec_toUInt8, UInt32.toBitVec_shiftRight,
    BitVec.getLsbD_or]
  simp
  grind

/-- A signed value survives the two reinterpretations. -/
@[simp] theorem readS32_writeS32 (val : Int32) (rest : List UInt8) :
    readS32 (writeS32 val ++ rest) = val := by
  rw [readS32, writeS32, readU32_writeU32]
  exact Int32.toInt32_toUInt32 val

/-- Four received bytes are determined by the value they read as. Whatever a peer sends can
therefore be taken for an encoding. -/
theorem writeU32_readU32 (p0 p1 p2 p3 : UInt8) :
    writeU32 (readU32 [p0, p1, p2, p3]) = [p0, p1, p2, p3] := by
  simp only [writeU32, readU32, List.cons.injEq, and_true]
  refine ⟨?_, ?_, ?_, ?_⟩ <;> apply UInt8.toBitVec_inj.mp <;> apply BitVec.eq_of_getLsbD_eq <;>
    intro bit bound <;>
    simp only [UInt32.toBitVec_or, UInt32.toBitVec_shiftLeft, UInt8.toBitVec_toUInt32,
      UInt32.toBitVec_toUInt8, UInt32.toBitVec_shiftRight] <;>
    simp <;> grind

/-- So are two. -/
theorem writeU16_readU16 (p0 p1 : UInt8) : writeU16 (readU16 [p0, p1]) = [p0, p1] := by
  simp only [writeU16, readU16, List.cons.injEq, and_true]
  refine ⟨UInt8.toBitVec_inj.mp (BitVec.eq_of_getLsbD_eq (fun bit bound => ?_)),
    UInt8.toBitVec_inj.mp (BitVec.eq_of_getLsbD_eq (fun bit bound => ?_))⟩ <;>
    simp only [UInt16.toBitVec_or, UInt16.toBitVec_shiftLeft, UInt8.toBitVec_toUInt16,
      UInt16.toBitVec_toUInt8, UInt16.toBitVec_shiftRight]
  -- The high byte has been shifted up and down, the low one has only been widened.
  · simp
    grind
  · simp

/-- Writing the value that was read gives back the bytes it was read from. Only the first two
bytes are read. -/
theorem writeU16_readU16_take {p : List UInt8} (size : 2 ≤ p.length) :
    writeU16 (readU16 p) = p.take 2 := by
  rcases p with _ | ⟨p0, _ | ⟨p1, rest⟩⟩
  · simp at size
  · simp at size
  · exact writeU16_readU16 p0 p1

/-- What `readU32` makes of the first four bytes is written back as those bytes. -/
theorem writeU32_readU32_take {p : List UInt8} (size : 4 ≤ p.length) :
    writeU32 (readU32 p) = p.take 4 := by
  rcases p with _ | ⟨p0, _ | ⟨p1, _ | ⟨p2, _ | ⟨p3, rest⟩⟩⟩⟩
  · simp at size
  · simp at size
  · simp at size
  · simp at size
  · exact writeU32_readU32 p0 p1 p2 p3

/-- What `readS32` makes of the first four bytes is written back as those bytes. -/
theorem writeS32_readS32_take {p : List UInt8} (size : 4 ≤ p.length) :
    writeS32 (readS32 p) = p.take 4 := by
  rw [← writeU32_readU32_take size]
  rfl

/-- A four-byte field reads as a value exactly when it is that value's encoding. Conditions on a
received number can be stated as conditions on the bytes. -/
theorem readU32_eq_iff {field : List UInt8} (size : field.length = 4) (val : UInt32) :
    readU32 field = val ↔ field = writeU32 val := by
  constructor
  · match field, size with
    | [p0, p1, p2, p3], _ =>
      rintro rfl
      exact (writeU32_readU32 p0 p1 p2 p3).symm
  · rintro rfl
    simpa using readU32_writeU32 val []

end OpenVnc
