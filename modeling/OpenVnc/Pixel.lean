import OpenVnc.Common
import OpenVnc.ByteOrder

/-!
# Pixel formats

The routines of `ovnc_pixel.c`: the default format, the bytes of one pixel and
the 16-byte wire form. Only three pixel sizes have a byte count; every other size
answers -1, which each caller has to reject.
-/

namespace OpenVnc

/-- A byte of a received buffer. Past the end it is zero, where no routine looks. -/
def byteAt (buf : List UInt8) (index : Nat) : UInt8 := buf.getD index 0

namespace PixelFormat

/-- `ovnc_pixel_format_init_default`: 32 bits per pixel, 8 bits per channel. It is also what an
application gets that does not care. -/
def initDefault : PixelFormat where
  bitsPerPixel := 32
  depth := 24
  bigEndian := 0
  trueColor := 1
  redMax := 255
  greenMax := 255
  blueMax := 255
  redShift := 16
  greenShift := 8
  blueShift := 0

/-- `ovnc_pixel_format_bytes_per_pixel`. Depth and shifts do not enter it. -/
def bytesPerPixel (fmt : PixelFormat) : Int :=
  if fmt.bitsPerPixel = 8 then 1
  else if fmt.bitsPerPixel = 16 then 2
  else if fmt.bitsPerPixel = 32 then 4
  else -1

/-- `ovnc__pixel_format_to_wire`: the last three bytes are padding. -/
def toWire (fmt : PixelFormat) : List UInt8 :=
  [fmt.bitsPerPixel, fmt.depth, fmt.bigEndian, fmt.trueColor] ++
    writeU16 fmt.redMax ++ writeU16 fmt.greenMax ++ writeU16 fmt.blueMax ++
    [fmt.redShift, fmt.greenShift, fmt.blueShift] ++ [0, 0, 0]

/-- `ovnc__pixel_format_from_wire`. The padding is not looked at. -/
def fromWire (buf : List UInt8) : PixelFormat where
  bitsPerPixel := byteAt buf 0
  depth := byteAt buf 1
  bigEndian := byteAt buf 2
  trueColor := byteAt buf 3
  redMax := readU16 (buf.drop 4)
  greenMax := readU16 (buf.drop 6)
  blueMax := readU16 (buf.drop 8)
  redShift := byteAt buf 10
  greenShift := byteAt buf 11
  blueShift := byteAt buf 12

/-- The formats with a byte count: 8, 16 or 32 bits per pixel. They are those for which a
framebuffer can be set up. -/
def Supported (fmt : PixelFormat) : Prop :=
  fmt.bitsPerPixel = 8 ∨ fmt.bitsPerPixel = 16 ∨ fmt.bitsPerPixel = 32

/-- Whether a format is supported can be computed. -/
instance (fmt : PixelFormat) : Decidable fmt.Supported := by
  unfold Supported
  infer_instance

/-- The byte count of one pixel as a natural number, zero for other sizes. Sizes are computed
with it once the format is known to be supported. -/
def pixelBytes (fmt : PixelFormat) : Nat := fmt.bytesPerPixel.toNat

/-- Reading the wire form back gives every field as it was. What follows the sixteen bytes does
not matter. -/
@[simp] theorem fromWire_toWire (fmt : PixelFormat) (rest : List UInt8) :
    fromWire (fmt.toWire ++ rest) = fmt := by
  have red : readU16 ((fmt.toWire ++ rest).drop 4) = fmt.redMax := readU16_writeU16 _ _
  have green : readU16 ((fmt.toWire ++ rest).drop 6) = fmt.greenMax := readU16_writeU16 _ _
  have blue : readU16 ((fmt.toWire ++ rest).drop 8) = fmt.blueMax := readU16_writeU16 _ _
  unfold fromWire
  rw [red, green, blue]
  rfl

/-- Reading the wire form alone. -/
@[simp] theorem fromWire_toWire_self (fmt : PixelFormat) : fromWire fmt.toWire = fmt := by
  simpa using fromWire_toWire fmt []

/-- A format has a nonnegative byte count exactly when it is supported. This is the test that
the source makes. -/
theorem bytesPerPixel_nonneg_iff (fmt : PixelFormat) :
    ¬ fmt.bytesPerPixel < 0 ↔ fmt.Supported := by
  unfold bytesPerPixel Supported
  split_ifs <;> simp_all

/-- A supported format has one, two or four bytes, and its count is that number. The natural
number may then be used in its place. -/
theorem Supported.cases {fmt : PixelFormat} (supported : fmt.Supported) :
    fmt.bytesPerPixel = fmt.pixelBytes ∧
      (fmt.pixelBytes = 1 ∨ fmt.pixelBytes = 2 ∨ fmt.pixelBytes = 4) := by
  unfold pixelBytes bytesPerPixel
  rcases supported with size | size | size <;> rw [size] <;> decide

/-- A pixel of a supported format takes at least one byte. -/
theorem Supported.pixelBytes_pos {fmt : PixelFormat} (supported : fmt.Supported) :
    0 < fmt.pixelBytes := by
  have := supported.cases
  omega

/-- A pixel of a supported format takes at most four bytes. -/
theorem Supported.pixelBytes_le {fmt : PixelFormat} (supported : fmt.Supported) :
    fmt.pixelBytes ≤ 4 := by
  have := supported.cases
  omega

/-- The default format passes the library's own test. -/
theorem initDefault_supported : initDefault.Supported := by decide

end PixelFormat

end OpenVnc
