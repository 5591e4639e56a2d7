import Mathlib.Algebra.Group.Nat.Defs
import Mathlib.Tactic.Common

/-!
# Public data types

The enumerations and records of `ovnc_common.h`, and `size_t` as an integer type
with one of two widths. `OVNC_OK` is not an error here: a routine that returns it
returns a value, and only the error codes are values of `Error`.
-/

namespace OpenVnc

/-- The error codes of `ovnc_error_t` other than `OVNC_OK`. A function of the library that
returns one has failed; success has no code of its own here. -/
inductive Error where
  | nomem
  | invalidArg
  | io
  | timeout
  | connectionRefused
  | connectionClosed
  | versionMismatch
  | authFailed
  | authUnsupported
  | protocol
  | encodingUnsupported
  | zlib
  | notImplemented
deriving DecidableEq, Repr

/-- `ovnc_rfb_version_t`. A fresh client's zeroed record holds `unset`, which is no
enumerator of the source. -/
inductive RfbVersion where
  | unset
  | v33
  | v37
  | v38
deriving DecidableEq, Repr

/-- `ovnc_security_type_t`. The client can use None only, but the numbers of the others occur on
the wire. -/
inductive SecurityType where
  | invalid
  | none
  | vncAuth
deriving DecidableEq, Repr

/-- An encoding number. `ovnc_encoding_type_t` names some of them; an application
can pass any 32-bit value. -/
abbrev EncodingType := Int32

/-- Pixels as they are. -/
def encodingRaw : EncodingType := 0

/-- Pseudo-encoding: the shape of the cursor. -/
def encodingCursor : EncodingType := -239

/-- Pseudo-encoding: the size of the framebuffer. -/
def encodingDesktopSize : EncodingType := -223

/-- `ovnc_pixel_format_t`. The flags are bytes, which the library passes on without looking at
them. -/
structure PixelFormat where
  bitsPerPixel : UInt8
  depth : UInt8
  bigEndian : UInt8
  trueColor : UInt8
  redMax : UInt16
  greenMax : UInt16
  blueMax : UInt16
  redShift : UInt8
  greenShift : UInt8
  blueShift : UInt8
deriving DecidableEq, Repr

/-- The block behind a pointer to pixel data: its identity for the allocator and
its bytes. Its capacity is the number of bytes. -/
structure Block where
  id : Nat
  bytes : List UInt8
deriving DecidableEq, Repr

/-- `ovnc_framebuffer_t`. A null `data` is `none`. Its size is recorded on its own, so that it
can differ from the block's. -/
structure Framebuffer where
  width : UInt16
  height : UInt16
  format : PixelFormat
  data : Option Block
  dataSize : Nat
deriving DecidableEq, Repr

namespace Framebuffer

/-- The size of the block behind `data`; a null pointer has no byte behind it. -/
def capacity (framebuffer : Framebuffer) : Nat :=
  match framebuffer.data with
  | none => 0
  | some block => block.bytes.length

end Framebuffer

/-- `ovnc_rect_t`. The coordinates are unsigned, and nothing says that the rectangle lies in a
framebuffer. -/
structure Rect where
  x : UInt16
  y : UInt16
  width : UInt16
  height : UInt16
deriving DecidableEq, Repr

/-- `OVNC_SERVER_NAME_MAX`. The last byte is the terminator's. -/
def serverNameMax : Nat := 256

/-- A `char name[OVNC_SERVER_NAME_MAX]`. The size is part of the type, so a record with a
shorter array cannot be built. -/
structure NameArray where
  bytes : List UInt8
  size : bytes.length = serverNameMax
deriving DecidableEq

/-- `ovnc_connection_info_t`. The name is given with the length that the server announced, which
may be more than is kept. -/
structure ConnectionInfo where
  name : NameArray
  nameLength : UInt32
  nameTruncated : Bool
  width : UInt16
  height : UInt16
  pixelFormat : PixelFormat
  rfbVersion : RfbVersion
  securityType : SecurityType
deriving DecidableEq

/-- The width of `size_t`. Sizes are computed in it, and the source does not check them. -/
inductive WordSize where
  | bits32
  | bits64
deriving DecidableEq, Repr

namespace WordSize

/-- One more than the largest `size_t`. Results are kept up to multiples of it. -/
def modulus : WordSize → Nat
  | bits32 => 2 ^ 32
  | bits64 => 2 ^ 64

/-- The value a result keeps in a `size_t`. Unsigned arithmetic does not fail. -/
def wrap (word : WordSize) (value : Nat) : Nat := value % word.modulus

/-- The cast of an `int` to `size_t`, in which -1 becomes the largest value. It is how a missing
byte count would get into a size. -/
def ofInt (word : WordSize) (value : Int) : Nat := (value % (word.modulus : Int)).toNat

/-- A value that fits is kept. -/
theorem wrap_of_lt {word : WordSize} {value : Nat} (fits : value < word.modulus) :
    word.wrap value = value := Nat.mod_eq_of_lt fits

/-- A nonnegative value that fits is kept by the cast. -/
theorem ofInt_ofNat {word : WordSize} {value : Nat} (fits : value < word.modulus) :
    word.ofInt (value : Int) = value := by
  unfold ofInt
  rw [Int.emod_eq_of_lt (Int.natCast_nonneg value) (by exact_mod_cast fits)]
  exact Int.toNat_natCast value

end WordSize

/-! ## Writing into an array -/

/-- Replace the elements from `offset` on by `written`. Elements past the end would be added,
which the uses below rule out. -/
def overwrite {α : Type} (array : List α) (offset : Nat) (written : List α) : List α :=
  array.take offset ++ written ++ array.drop (offset + written.length)

/-- A write inside the array keeps its size. -/
theorem overwrite_length {α : Type} {array written : List α} {offset : Nat}
    (inside : offset + written.length ≤ array.length) :
    (overwrite array offset written).length = array.length := by
  simp only [overwrite, List.length_append, List.length_take, List.length_drop]
  omega

/-- Inside the written range an element is the written one, elsewhere the old one. -/
theorem overwrite_getElem? {α : Type} {array written : List α} {offset : Nat}
    (inside : offset + written.length ≤ array.length) (index : Nat) :
    (overwrite array offset written)[index]? =
      if offset ≤ index ∧ index < offset + written.length then written[index - offset]?
      else array[index]? := by
  have front : (array.take offset).length = offset := by
    rw [List.length_take]
    omega
  unfold overwrite
  rw [List.append_assoc, List.getElem?_append, front]
  split
  · next before =>
    rw [if_neg (by omega), List.getElem?_take_of_lt before]
  · next notBefore =>
    rw [List.getElem?_append]
    split
    · next within => rw [if_pos (by omega)]
    · next beyond =>
      rw [if_neg (by omega), List.getElem?_drop]
      congr 1
      omega

end OpenVnc
