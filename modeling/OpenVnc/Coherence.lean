import OpenVnc.Encoding

/-!
# The framebuffer record and its storage

A record is coherent when its format has a byte count, its size is the exact
product of extents and byte count, and its block is at least that large. In a
64-bit `size_t` none of the products the decoders compute can wrap, so the tests
in the source compare exact numbers. Storing bytes inside the block changes those
bytes and nothing else.
-/

namespace OpenVnc

/-- The representation invariant of a framebuffer record. -/
structure Framebuffer.Coherent (framebuffer : Framebuffer) : Prop where
  supported : framebuffer.format.Supported
  exact_size : framebuffer.dataSize =
    framebuffer.width.toNat * framebuffer.height.toNat * framebuffer.format.pixelBytes
  stored : framebuffer.dataSize ≤ framebuffer.capacity

/-! ## Size arithmetic in 64 bits -/

/-- Two 16-bit factors and a pixel size never wrap. -/
theorem product_exact (width height : UInt16) {bpp : Nat} (small : bpp ≤ 4) :
    WordSize.bits64.product width.toNat height.toNat bpp = width.toNat * height.toNat * bpp := by
  have widthBound : width.toNat < 2 ^ 16 := UInt16.toNat_lt width
  have heightBound : height.toNat < 2 ^ 16 := UInt16.toNat_lt height
  have area : width.toNat * height.toNat ≤ 2 ^ 16 * 2 ^ 16 :=
    Nat.mul_le_mul (by omega) (by omega)
  have volume : width.toNat * height.toNat * bpp ≤ 2 ^ 16 * 2 ^ 16 * 4 :=
    Nat.mul_le_mul area small
  unfold WordSize.product
  have areaFits : width.toNat * height.toNat < WordSize.bits64.modulus := by
    simp only [WordSize.modulus]
    omega
  rw [WordSize.wrap_of_lt areaFits]
  exact WordSize.wrap_of_lt (by simp only [WordSize.modulus]; omega)

/-- The byte count of a supported format survives the cast to `size_t`. -/
theorem ofInt_bytesPerPixel {word : WordSize} {format : PixelFormat}
    (supported : format.Supported) : word.ofInt format.bytesPerPixel = format.pixelBytes := by
  have small := supported.pixelBytes_le
  rw [supported.cases.1]
  exact WordSize.ofInt_ofNat (by cases word <;> simp only [WordSize.modulus] <;> omega)

/-- A product of three factors is the exact one up to multiples of the modulus, whichever
of the two multiplications wraps. -/
theorem product_wraps (word : WordSize) (a b c : Nat) :
    word.product a b c = word.wrap (a * b * c) := by
  unfold WordSize.product WordSize.wrap
  rw [Nat.mul_mod, Nat.mod_mod, ← Nat.mul_mod]

/-- A 16-bit extent times a pixel size never wraps, in either width of `size_t`. -/
theorem extent_wraps (word : WordSize) (extent : UInt16) {bpp : Nat} (small : bpp ≤ 4) :
    word.wrap (extent.toNat * bpp) = extent.toNat * bpp ∧ extent.toNat * bpp ≤ 2 ^ 18 := by
  have bound : extent.toNat < 2 ^ 16 := UInt16.toNat_lt extent
  have product : extent.toNat * bpp ≤ 2 ^ 16 * 4 := Nat.mul_le_mul (by omega) small
  exact ⟨WordSize.wrap_of_lt (by cases word <;> simp only [WordSize.modulus] <;> omega), by omega⟩

/-- The same for the 64-bit `size_t` of a coherent record. -/
theorem extent_exact (extent : UInt16) {bpp : Nat} (small : bpp ≤ 4) :
    WordSize.bits64.wrap (extent.toNat * bpp) = extent.toNat * bpp ∧
      extent.toNat * bpp ≤ 2 ^ 18 := extent_wraps .bits64 extent small

/-- The offset of a row and its end never wrap, so that the source's test compares
the exact end of the row. -/
theorem row_exact (rect : Rect) {bpp rowBytes fbStride y : Nat} (small : bpp ≤ 4)
    (rowBound : rowBytes ≤ 2 ^ 18) (strideBound : fbStride ≤ 2 ^ 18) (rows : y < 2 ^ 16) :
    let offset := (rect.y.toNat + y) * fbStride + rect.x.toNat * bpp
    WordSize.bits64.wrap (WordSize.bits64.wrap ((rect.y.toNat + y) * fbStride) +
        WordSize.bits64.wrap (rect.x.toNat * bpp)) = offset ∧
      WordSize.bits64.wrap (offset + rowBytes) = offset + rowBytes := by
  have yBound : rect.y.toNat < 2 ^ 16 := UInt16.toNat_lt rect.y
  have down : (rect.y.toNat + y) * fbStride ≤ 2 ^ 17 * 2 ^ 18 :=
    Nat.mul_le_mul (by omega) strideBound
  obtain ⟨acrossExact, across⟩ := extent_exact rect.x small
  have downExact : WordSize.bits64.wrap ((rect.y.toNat + y) * fbStride) =
      (rect.y.toNat + y) * fbStride :=
    WordSize.wrap_of_lt (by simp only [WordSize.modulus]; omega)
  rw [downExact, acrossExact]
  exact ⟨WordSize.wrap_of_lt (by simp only [WordSize.modulus]; omega),
    WordSize.wrap_of_lt (by simp only [WordSize.modulus]; omega)⟩

/-! ## Storing bytes -/

namespace Framebuffer

/-- A byte of the block, as far as there is one. -/
def byte (framebuffer : Framebuffer) (index : Nat) : Option UInt8 :=
  framebuffer.data.bind (fun block => block.bytes[index]?)

/-- One byte of the pixel at column `x` and row `y`. -/
def pixelByte (framebuffer : Framebuffer) (x y byte : Nat) : Option UInt8 :=
  framebuffer.byte ((y * framebuffer.width.toNat + x) * framebuffer.format.pixelBytes + byte)

variable {framebuffer : Framebuffer} {offset : Nat} {bytes : List UInt8}

/-- The block keeps its size. -/
theorem stored_capacity (inside : offset + bytes.length ≤ framebuffer.capacity) :
    (framebuffer.stored offset bytes).capacity = framebuffer.capacity := by
  unfold capacity at inside ⊢
  cases data : framebuffer.data with
  | none => simp [stored, data]
  | some block =>
    simp only [data] at inside
    simp only [stored, data, Option.map_some, overwrite_length inside]

/-- A byte in the written range is the written one, any other is as before. -/
theorem stored_byte (inside : offset + bytes.length ≤ framebuffer.capacity) (index : Nat) :
    (framebuffer.stored offset bytes).byte index =
      if offset ≤ index ∧ index < offset + bytes.length then bytes[index - offset]?
      else framebuffer.byte index := by
  unfold capacity at inside
  cases data : framebuffer.data with
  | none =>
    simp only [data] at inside
    rw [if_neg (by omega)]
    simp [byte, stored, data]
  | some block =>
    simp only [data] at inside
    simp only [byte, stored, data, Option.map_some, Option.bind_some, overwrite_getElem? inside]

/-- A coherent record stays coherent. -/
theorem Coherent.store (coherent : framebuffer.Coherent)
    (inside : offset + bytes.length ≤ framebuffer.capacity) :
    (framebuffer.stored offset bytes).Coherent where
  supported := coherent.supported
  exact_size := coherent.exact_size
  stored := by
    rw [stored_capacity inside]
    exact coherent.stored

end Framebuffer

end OpenVnc
