import OpenVnc.Codec.Repetition
import OpenVnc.Feed
import OpenVnc.RecvMessages
import OpenVnc.ServerMessages
import Mathlib.Tactic.Ring

/-!
# Decoding undoes the server's encoder

Against a host that holds the encodings of well-formed messages, followed by
anything, the decoder consumes exactly those encodings, calls exactly the callbacks
the messages call for, and leaves the picture the messages describe. The proof
follows the decoder: a row, a rectangle, the rectangles of an update, a message, a
sequence of messages. Each step leaves a coherent record of the size the next
rectangle was encoded for.
-/

namespace OpenVnc

open Interaction Interaction.Program

/-! ## Rows of a Raw rectangle -/

/-- The framebuffer after `rows` rows of pixels were stored, the first at `start` and
each `stride` bytes after the one before. -/
def paintRows (stride rowBytes : Nat) : Nat → Nat → List UInt8 → Framebuffer → Framebuffer
  | 0, _, _, framebuffer => framebuffer
  | rows + 1, start, pixels, framebuffer =>
      paintRows stride rowBytes rows (start + stride) (pixels.drop rowBytes)
        (framebuffer.stored start (pixels.take rowBytes))

section Painting

variable {stride rowBytes rows start : Nat} {pixels : List UInt8} {framebuffer : Framebuffer}

/-- Painting changes bytes only. -/
theorem paintRows_same (stride rowBytes rows start : Nat) (pixels : List UInt8)
    (framebuffer : Framebuffer) :
    paintRows stride rowBytes rows start pixels framebuffer =
      { framebuffer with
        data := (paintRows stride rowBytes rows start pixels framebuffer).data } := by
  induction rows generalizing start pixels framebuffer with
  | zero => rfl
  | succ rows inductionHypothesis => exact inductionHypothesis ..

/-- The first row of a painting and what it leaves for the others. -/
theorem firstRow (size : pixels.length ≤ (rows + 1) * rowBytes)
    (room : ∀ row < rows + 1, start + row * stride + rowBytes ≤ framebuffer.capacity) :
    (pixels.take rowBytes).length ≤ rowBytes ∧
      start + (pixels.take rowBytes).length ≤ framebuffer.capacity ∧
      (pixels.drop rowBytes).length ≤ rows * rowBytes := by
  have first := room 0 (by omega)
  have counted : (rows + 1) * rowBytes = rows * rowBytes + rowBytes := Nat.succ_mul rows rowBytes
  have taken : (pixels.take rowBytes).length ≤ rowBytes := List.length_take_le rowBytes pixels
  refine ⟨taken, by omega, ?_⟩
  rw [List.length_drop]
  omega

/-- The room for the rows after the first. -/
theorem laterRows {room : Nat}
    (within : ∀ row < rows + 1, start + row * stride + rowBytes ≤ room) :
    ∀ row < rows, start + stride + row * stride + rowBytes ≤ room := by
  intro row inside
  have later := within (row + 1) (by omega)
  have counted : (row + 1) * stride = row * stride + stride := Nat.succ_mul row stride
  omega

/-- Painting keeps the size of the block. -/
theorem paintRows_capacity (size : pixels.length ≤ rows * rowBytes)
    (room : ∀ row < rows, start + row * stride + rowBytes ≤ framebuffer.capacity) :
    (paintRows stride rowBytes rows start pixels framebuffer).capacity =
      framebuffer.capacity := by
  induction rows generalizing start pixels framebuffer with
  | zero => rfl
  | succ rows inductionHypothesis =>
    obtain ⟨taken, fits, remaining⟩ := firstRow size room
    have kept := Framebuffer.stored_capacity fits
    rw [paintRows, inductionHypothesis remaining (by rw [kept]; exact laterRows room), kept]

/-- Painting keeps a record coherent. -/
theorem paintRows_coherent (coherent : framebuffer.Coherent)
    (size : pixels.length ≤ rows * rowBytes)
    (room : ∀ row < rows, start + row * stride + rowBytes ≤ framebuffer.capacity) :
    (paintRows stride rowBytes rows start pixels framebuffer).Coherent := by
  have kept := paintRows_capacity size room
  rw [paintRows_same] at kept ⊢
  exact ⟨coherent.supported, coherent.exact_size, Nat.le_trans coherent.stored
    (Nat.le_of_eq kept.symm)⟩

/-- A byte outside every row stays. -/
theorem paintRows_outside (size : pixels.length ≤ rows * rowBytes)
    (room : ∀ row < rows, start + row * stride + rowBytes ≤ framebuffer.capacity) {index : Nat}
    (outside : ∀ row < rows, ¬ (start + row * stride ≤ index ∧
      index < start + row * stride + rowBytes)) :
    (paintRows stride rowBytes rows start pixels framebuffer).byte index =
      framebuffer.byte index := by
  induction rows generalizing start pixels framebuffer with
  | zero => rfl
  | succ rows inductionHypothesis =>
    obtain ⟨taken, fits, remaining⟩ := firstRow size room
    have kept := Framebuffer.stored_capacity fits
    have first := outside 0 (by omega)
    rw [paintRows, inductionHypothesis remaining (by rw [kept]; exact laterRows room),
      Framebuffer.stored_byte fits, if_neg (by omega)]
    intro row inside
    have later := outside (row + 1) (by omega)
    have counted : (row + 1) * stride = row * stride + stride := Nat.succ_mul row stride
    omega

/-- A byte of a row is the byte of the pixels at the same place, as far as there are pixels:
no later row reaches back into it. -/
theorem paintRows_inside (size : pixels.length ≤ rows * rowBytes) (narrow : rowBytes ≤ stride)
    (room : ∀ row < rows, start + row * stride + rowBytes ≤ framebuffer.capacity)
    {row offset : Nat} (rowInside : row < rows) (offsetInside : offset < rowBytes) :
    (paintRows stride rowBytes rows start pixels framebuffer).byte
        (start + row * stride + offset) =
      if row * rowBytes + offset < pixels.length then pixels[row * rowBytes + offset]?
      else framebuffer.byte (start + row * stride + offset) := by
  induction rows generalizing start pixels framebuffer row with
  | zero => omega
  | succ rows inductionHypothesis =>
    obtain ⟨taken, fits, remaining⟩ := firstRow size room
    have kept := Framebuffer.stored_capacity fits
    have roomLeft : ∀ row < rows, start + stride + row * stride + rowBytes ≤
        (framebuffer.stored start (pixels.take rowBytes)).capacity := by
      rw [kept]
      exact laterRows room
    have size : (pixels.take rowBytes).length = min rowBytes pixels.length := List.length_take
    rw [paintRows]
    cases row with
    | zero =>
      rw [paintRows_outside remaining roomLeft (by intro row inside; omega),
        Framebuffer.stored_byte fits]
      simp only [Nat.zero_mul, Nat.add_zero, Nat.zero_add, Nat.add_sub_cancel_left]
      rw [List.getElem?_take_of_lt offsetInside]
      exact if_congr (by omega) rfl rfl
    | succ row =>
      have below : (row + 1) * stride = row * stride + stride := Nat.succ_mul row stride
      have counted : (row + 1) * rowBytes = row * rowBytes + rowBytes := Nat.succ_mul row rowBytes
      have place : start + (row + 1) * stride + offset =
          start + stride + row * stride + offset := by
        omega
      have position : rowBytes + (row * rowBytes + offset) = (row + 1) * rowBytes + offset := by
        omega
      have unpainted : (framebuffer.stored start (pixels.take rowBytes)).byte
          (start + stride + row * stride + offset) =
          framebuffer.byte (start + stride + row * stride + offset) := by
        rw [Framebuffer.stored_byte fits, if_neg (by omega)]
      rw [place, inductionHypothesis remaining roomLeft (by omega), List.getElem?_drop, position,
        unpainted, List.length_drop]
      exact if_congr (by omega) rfl rfl

/-- A byte of a pixel lies in a row of a rectangle inside the framebuffer exactly when
the pixel is in that row of the rectangle. The rows are `width * bpp` bytes apart and
a pixel outside the columns of the rectangle is a whole pixel away from them. -/
theorem pixel_in_row {width bpp left across top row x y byte : Nat}
    (columns : left + across ≤ width) (column : x < width) (inPixel : byte < bpp) :
    (top * (width * bpp) + left * bpp + row * (width * bpp) ≤ (y * width + x) * bpp + byte ∧
      (y * width + x) * bpp + byte <
        top * (width * bpp) + left * bpp + row * (width * bpp) + across * bpp) ↔
      y = top + row ∧ left ≤ x ∧ x < left + across := by
  have place : (y * width + x) * bpp + byte = y * (width * bpp) + (x * bpp + byte) := by ring
  have rowPlace : top * (width * bpp) + left * bpp + row * (width * bpp) =
      (top + row) * (width * bpp) + left * bpp := by ring
  have rowEnd : (left + across) * bpp ≤ width * bpp := Nat.mul_le_mul_right bpp columns
  have pixelEnd : (x + 1) * bpp ≤ width * bpp := Nat.mul_le_mul_right bpp column
  have widthSplit : (left + across) * bpp = left * bpp + across * bpp := Nat.add_mul ..
  have pixelSplit : (x + 1) * bpp = x * bpp + bpp := Nat.succ_mul x bpp
  rw [place, rowPlace]
  rcases Nat.lt_trichotomy y (top + row) with above | same | below
  · have lines : (y + 1) * (width * bpp) ≤ (top + row) * (width * bpp) :=
      Nat.mul_le_mul_right _ above
    rw [Nat.succ_mul] at lines
    omega
  · subst same
    constructor
    · rintro ⟨notBefore, before⟩
      refine ⟨rfl, ?_, ?_⟩
      · by_contra leftOf
        have := Nat.mul_le_mul_right bpp (show x + 1 ≤ left by omega)
        omega
      · by_contra rightOf
        have := Nat.mul_le_mul_right bpp (show left + across ≤ x by omega)
        omega
    · rintro ⟨-, notLeft, notRight⟩
      have := Nat.mul_le_mul_right bpp notLeft
      have := Nat.mul_le_mul_right bpp (show x + 1 ≤ left + across by omega)
      omega
  · have lines : (top + row + 1) * (width * bpp) ≤ y * (width * bpp) :=
      Nat.mul_le_mul_right _ below
    rw [Nat.succ_mul] at lines
    omega

end Painting

/-! ## Rectangles -/

section Rectangles

variable (host : Host) {memory : Memory} {transport : Transport} (rest sent : List UInt8)
  (fired : List Callback) (clock : Nat)

/-- The next row of a rectangle starts a stride further. -/
theorem nextRow (rect : Rect) (bpp stride y : Nat) :
    (rect.y.toNat + (y + 1)) * stride + rect.x.toNat * bpp =
      (rect.y.toNat + y) * stride + rect.x.toNat * bpp + stride := by
  rw [← Nat.add_assoc, Nat.succ_mul]
  omega

/-- The row loop paints its rows. Every row passes the bound check, which in 64 bits
compares exact numbers. -/
theorem run_decodeRawRows (attached : memory.client.transport = some transport) (rect : Rect)
    {bpp rowBytes stride y rows : Nat} {pixels : List UInt8} (small : bpp ≤ 4)
    (rowBound : rowBytes ≤ 2 ^ 18) (strideBound : stride ≤ 2 ^ 18) (below : y + rows < 2 ^ 16)
    (size : pixels.length = rows * rowBytes)
    (within : ∀ row < rows, (rect.y.toNat + y) * stride + rect.x.toNat * bpp + row * stride +
      rowBytes ≤ memory.client.framebuffer.dataSize)
    (stored : memory.client.framebuffer.dataSize ≤ memory.client.framebuffer.capacity) :
    (decodeRawRows .bits64 rect bpp rowBytes stride y rows).run host.feed memory
        ⟨pixels ++ rest, sent, fired, clock⟩ =
      (.returned (), memory.withFramebuffer (paintRows stride rowBytes rows
          ((rect.y.toNat + y) * stride + rect.x.toNat * bpp) pixels memory.client.framebuffer),
        ⟨rest, sent, fired, clock⟩) := by
  induction rows generalizing memory y pixels with
  | zero =>
    obtain rfl : pixels = [] := List.eq_nil_of_length_eq_zero (by omega)
    rfl
  | succ rows inductionHypothesis =>
    obtain ⟨offsetExact, endExact⟩ :=
      row_exact (y := y) rect small rowBound strideBound (by omega)
    have room : ∀ row < rows + 1, (rect.y.toNat + y) * stride + rect.x.toNat * bpp +
        row * stride + rowBytes ≤ memory.client.framebuffer.capacity :=
      fun row inside => Nat.le_trans (within row inside) stored
    obtain ⟨-, fits, -⟩ := firstRow (Nat.le_of_eq size) room
    have counted : (rows + 1) * rowBytes = rows * rowBytes + rowBytes := Nat.succ_mul rows rowBytes
    have taken : (pixels.take rowBytes).length = rowBytes := List.length_take_of_le (by omega)
    have remaining : (pixels.drop rowBytes).length = rows * rowBytes := by
      rw [List.length_drop]
      omega
    have first : (rect.y.toNat + y) * stride + rect.x.toNat * bpp + rowBytes ≤
        memory.client.framebuffer.dataSize := by simpa using within 0 (by omega)
    have kept := Framebuffer.stored_capacity fits
    have withinLeft : ∀ row < rows, (rect.y.toNat + (y + 1)) * stride + rect.x.toNat * bpp +
        row * stride + rowBytes ≤ memory.client.framebuffer.dataSize := by
      rw [nextRow]
      exact laterRows within
    have painted := @inductionHypothesis
      (memory.stored ((rect.y.toNat + y) * stride + rect.x.toNat * bpp) (pixels.take rowBytes))
      attached (y + 1) (pixels.drop rowBytes) (by omega) remaining withinLeft
      (Nat.le_trans stored (Nat.le_of_eq kept.symm))
    have received := run_transportRecvPixels host attached taken
      (Nat.le_trans first stored) (pixels.drop rowBytes ++ rest) sent fired clock
    rw [← List.append_assoc, List.take_append_drop] at received
    simp only [decodeRawRows, offsetExact, endExact]
    rw [bind_eq, run_load_then, bind_eq, run_failIf_then, if_neg (by omega), bind_eq,
      run_sequence_returned _ received, painted, nextRow]
    rfl

/-- The rows of a rectangle inside the framebuffer end within its data. -/
theorem row_within {framebuffer : Framebuffer} (coherent : framebuffer.Coherent) {rect : Rect}
    (columns : rect.x.toNat + rect.width.toNat ≤ framebuffer.width.toNat)
    (rows : rect.y.toNat + rect.height.toNat ≤ framebuffer.height.toNat) {row : Nat}
    (inside : row < rect.height.toNat) :
    let bpp := framebuffer.format.pixelBytes
    rect.y.toNat * (framebuffer.width.toNat * bpp) + rect.x.toNat * bpp +
      row * (framebuffer.width.toNat * bpp) + rect.width.toNat * bpp ≤ framebuffer.dataSize := by
  intro bpp
  have lines : (rect.y.toNat + row + 1) * (framebuffer.width.toNat * bpp) ≤
      framebuffer.height.toNat * (framebuffer.width.toNat * bpp) :=
    Nat.mul_le_mul_right _ (by omega)
  have across : (rect.x.toNat + rect.width.toNat) * bpp ≤ framebuffer.width.toNat * bpp :=
    Nat.mul_le_mul_right bpp columns
  calc rect.y.toNat * (framebuffer.width.toNat * bpp) + rect.x.toNat * bpp +
        row * (framebuffer.width.toNat * bpp) + rect.width.toNat * bpp
      = (rect.y.toNat + row) * (framebuffer.width.toNat * bpp) +
          (rect.x.toNat + rect.width.toNat) * bpp := by ring
    _ ≤ (rect.y.toNat + row + 1) * (framebuffer.width.toNat * bpp) := by
        rw [Nat.succ_mul]
        omega
    _ ≤ framebuffer.height.toNat * (framebuffer.width.toNat * bpp) := lines
    _ = framebuffer.dataSize := by
        rw [coherent.exact_size]
        ring

/-- What the row loop of a well-formed Raw rectangle paints is what the rectangle
shows. -/
theorem paintRows_shows {framebuffer : Framebuffer} (coherent : framebuffer.Coherent)
    (allocator : Bool) {rect : Rect} {pixels : List UInt8}
    (wellFormed : (RectUpdate.raw rect pixels).WellFormed framebuffer.format.pixelBytes
      ⟨framebuffer.width, framebuffer.height⟩) :
    let bpp := framebuffer.format.pixelBytes
    let start := rect.y.toNat * (framebuffer.width.toNat * bpp) + rect.x.toNat * bpp
    pixels.length = rect.height.toNat * (rect.width.toNat * bpp) ∧
      (∀ row < rect.height.toNat, start + row * (framebuffer.width.toNat * bpp) +
        rect.width.toNat * bpp ≤ framebuffer.dataSize) ∧
      RectUpdate.Shows allocator framebuffer (.raw rect pixels)
        (paintRows (framebuffer.width.toNat * bpp) (rect.width.toNat * bpp) rect.height.toNat
          start pixels framebuffer) := by
  obtain ⟨columns, rows, size⟩ := wellFormed
  simp only at columns rows
  intro bpp start
  have counted : pixels.length = rect.height.toNat * (rect.width.toNat * bpp) := by
    rw [size]
    ring
  have narrow : rect.width.toNat * bpp ≤ framebuffer.width.toNat * bpp :=
    Nat.mul_le_mul_right bpp (by omega)
  have within : ∀ row < rect.height.toNat, start + row * (framebuffer.width.toNat * bpp) +
      rect.width.toNat * bpp ≤ framebuffer.dataSize :=
    fun row inside => row_within coherent columns rows inside
  have room : ∀ row < rect.height.toNat, start + row * (framebuffer.width.toNat * bpp) +
      rect.width.toNat * bpp ≤ framebuffer.capacity :=
    fun row inside => Nat.le_trans (within row inside) coherent.stored
  refine ⟨counted, within, .raw (paintRows_same ..) ?_⟩
  intro x y byte column line inPixel
  have pixelPlace : (paintRows (framebuffer.width.toNat * bpp) (rect.width.toNat * bpp)
      rect.height.toNat start pixels framebuffer).pixelByte x y byte =
      (paintRows (framebuffer.width.toNat * bpp) (rect.width.toNat * bpp) rect.height.toNat start
        pixels framebuffer).byte ((y * framebuffer.width.toNat + x) * bpp + byte) := by
    rw [Framebuffer.pixelByte, paintRows_same]
  rw [pixelPlace]
  split
  · next inside =>
    obtain ⟨notLeft, notRight, notAbove, notBelow⟩ := inside
    obtain ⟨across, rfl⟩ := Nat.exists_eq_add_of_le notLeft
    obtain ⟨down, rfl⟩ := Nat.exists_eq_add_of_le notAbove
    have offset : across * bpp + byte < rect.width.toNat * bpp := by
      have := Nat.mul_le_mul_right bpp (show across + 1 ≤ rect.width.toNat by omega)
      rw [Nat.succ_mul] at this
      have : byte < bpp := inPixel
      omega
    have position : down * (rect.width.toNat * bpp) + (across * bpp + byte) < pixels.length := by
      have := Nat.mul_le_mul_right (rect.width.toNat * bpp)
        (show down + 1 ≤ rect.height.toNat by omega)
      rw [Nat.succ_mul] at this
      omega
    have painted := paintRows_inside (Nat.le_of_eq counted) narrow room
      (show down < rect.height.toNat by omega) offset
    rw [if_pos position] at painted
    rw [show ((rect.y.toNat + down) * framebuffer.width.toNat + (rect.x.toNat + across)) * bpp +
      byte = start + down * (framebuffer.width.toNat * bpp) + (across * bpp + byte) by ring,
      painted]
    congr 1
    simp only [Nat.add_sub_cancel_left]
    ring
  · next outside =>
    apply paintRows_outside (Nat.le_of_eq counted) room
    intro row inside held
    apply outside
    have := (pixel_in_row columns column inPixel).mp held
    omega

/-- A routine that consumes the payload of a rectangle, reports the rectangle and
leaves a coherent record of what it shows. -/
def Presents (host : Host) (update : RectUpdate) (routine : Routine Unit) (memory : Memory) :
    Prop :=
  ∀ rest sent fired clock, ∃ after later,
    routine.run host.feed memory ⟨update.payload ++ rest, sent, fired, clock⟩ =
      (.returned (), memory.withFramebuffer after,
        ⟨rest, sent, fired ++ [update.callback].filter memory.client.callbacks.has, later⟩) ∧
    update.Shows memory.client.callbacks.allocFramebuffer memory.client.framebuffer after ∧
    after.Coherent

/-- Raw. A rectangle inside the framebuffer is presented: its rows are painted one after the
other, and nothing outside it changes. -/
theorem decodeRaw_presents (attached : memory.client.transport = some transport)
    (coherent : memory.client.framebuffer.Coherent) {rect : Rect} {pixels : List UInt8}
    (wellFormed : (RectUpdate.raw rect pixels).WellFormed
      memory.client.framebuffer.format.pixelBytes memory.client.framebuffer.extent) :
    Presents host (.raw rect pixels) (decodeRaw .bits64 rect) memory := by
  intro rest sent fired clock
  have small := coherent.supported.pixelBytes_le
  obtain ⟨rowExact, rowBound⟩ := extent_exact rect.width small
  obtain ⟨strideExact, strideBound⟩ := extent_exact memory.client.framebuffer.width small
  have height : rect.height.toNat < 2 ^ 16 := UInt16.toNat_lt rect.height
  obtain ⟨size, within, shown⟩ := paintRows_shows coherent
    memory.client.callbacks.allocFramebuffer wellFormed
  have painted := run_decodeRawRows host rest sent fired clock attached rect small rowBound
    strideBound (y := 0) (by omega) size (by simpa using within) coherent.stored
  refine ⟨_, clock, ?_, shown, paintRows_coherent coherent (Nat.le_of_eq size)
    (fun row inside => Nat.le_trans (within row inside) coherent.stored)⟩
  simp only [decodeRaw, bind_eq, RectUpdate.payload]
  rw [run_load_then, ofInt_bytesPerPixel coherent.supported, rowExact, strideExact,
    run_sequence_returned _ painted, run_fire]
  rfl

/-- DesktopSize. The framebuffer takes the announced size, with a new block or, where the host
keeps the storage, with what the callback left. -/
theorem decodeDesktopSize_presents (coherent : memory.client.framebuffer.Coherent) (rect : Rect) :
    Presents host (.desktopSize rect) (decodeDesktopSize .bits64 rect) memory := by
  intro rest sent fired clock
  have supported := coherent.supported
  have size := product_exact rect.width rect.height supported.pixelBytes_le
  simp only [decodeDesktopSize, bind_eq, RectUpdate.payload, List.nil_append]
  rw [run_load_then, ofInt_bytesPerPixel supported, size]
  split
  · next allocator =>
    -- The application's allocator: the size is recorded before the call.
    rw [run_modifyFramebuffer_then, run_sequence_returned _ (run_callAllocFramebuffer host _),
      run_fire]
    refine ⟨_, clock + 1, rfl, .desktopSize (fun impossible => ?_), supported, rfl, ?_⟩
    · exact absurd impossible (by simp [allocator])
    · exact host.enough clock { memory.client.framebuffer with
        width := rect.width, height := rect.height, dataSize := _ }
  · next library =>
    rw [run_sequence_returned _ (run_callocPixels host _ _),
      run_sequence_returned _ (run_freePixels host _ _), run_modifyFramebuffer_then, run_fire]
    refine ⟨_, clock + 1, rfl, .desktopSize (fun _ byte member => ?_), supported, rfl, ?_⟩
    · exact List.eq_of_mem_replicate member
    · exact Nat.le_of_eq List.length_replicate.symm

/-- A cursor has no byte exactly when it has no pixel: a mask row takes at least one
byte for a cursor that is not empty. -/
theorem cursor_empty_iff {rect : Rect} {bpp : Nat} (positive : 0 < bpp) :
    rect.width.toNat * rect.height.toNat * bpp +
        (rect.width.toNat + 7) / 8 * rect.height.toNat = 0 ↔
      rect.width = 0 ∨ rect.height = 0 := by
  constructor
  · intro nothing
    have pixels : rect.width.toNat * rect.height.toNat * bpp = 0 := by omega
    rcases Nat.mul_eq_zero.mp pixels with area | none
    · rcases Nat.mul_eq_zero.mp area with width | height
      · exact .inl (UInt16.toNat_inj.mp width)
      · exact .inr (UInt16.toNat_inj.mp height)
    · omega
  · rintro (width | height)
    · simp [width]
    · simp [height]

/-- Cursor. The pixels and the mask go to the callback, and the framebuffer stays as it is. -/
theorem decodeCursor_presents (attached : memory.client.transport = some transport)
    (coherent : memory.client.framebuffer.Coherent) {rect : Rect} {pixels bitmask : List UInt8}
    (wellFormed : (RectUpdate.cursor rect pixels bitmask).WellFormed
      memory.client.framebuffer.format.pixelBytes memory.client.framebuffer.extent) :
    Presents host (.cursor rect pixels bitmask) (decodeCursor .bits64 rect) memory := by
  intro rest sent fired clock
  obtain ⟨pixelCount, maskCount⟩ := wellFormed
  have supported := coherent.supported
  have size := product_exact rect.width rect.height supported.pixelBytes_le
  have pixelBound := Nat.mul_le_mul (Nat.mul_le_mul (UInt16.toNat_lt rect.width).le
    (UInt16.toNat_lt rect.height).le) supported.pixelBytes_le
  have maskBound : (rect.width.toNat + 7) / 8 * rect.height.toNat ≤ 2 ^ 13 * 2 ^ 16 :=
    Nat.mul_le_mul (by have := UInt16.toNat_lt rect.width; omega) (UInt16.toNat_lt rect.height).le
  have maskExact : WordSize.bits64.wrap ((rect.width.toNat + 7) / 8 * rect.height.toNat) =
      (rect.width.toNat + 7) / 8 * rect.height.toNat :=
    WordSize.wrap_of_lt (by simp only [WordSize.modulus]; omega)
  have empty := @cursor_empty_iff rect _ supported.pixelBytes_pos
  rw [← pixelCount, ← maskCount, ← List.length_append] at empty
  have total : WordSize.bits64.wrap (rect.width.toNat * rect.height.toNat *
      memory.client.framebuffer.format.pixelBytes +
        (rect.width.toNat + 7) / 8 * rect.height.toNat) = (pixels ++ bitmask).length := by
    rw [List.length_append, pixelCount, maskCount]
    exact WordSize.wrap_of_lt (by simp only [WordSize.modulus]; omega)
  simp only [decodeCursor, bind_eq, RectUpdate.payload]
  rw [run_load_then, ofInt_bytesPerPixel supported, size, maskExact, total]
  refine ⟨memory.client.framebuffer, clock, ?_, .cursor, coherent⟩
  split
  · next nothing =>
    obtain bytes : pixels ++ bitmask = [] := List.eq_nil_of_length_eq_zero nothing
    simp only [run_fire, RectUpdate.callback, if_pos (empty.mp nothing), bytes, List.nil_append]
    rfl
  · next something =>
    rw [run_malloc_then, run_failIf_then, if_neg (by decide),
      run_sequence_returned _ (run_transportRecv host attached rfl rest sent fired clock), run_fire,
      ← pixelCount, List.take_left, List.drop_left]
    simp only [RectUpdate.callback, if_neg (fun nothing => something (empty.mpr nothing))]
    rfl

/-- `ovnc__decode_rect`, one case for each encoding. -/
theorem decodeRect_presents (attached : memory.client.transport = some transport)
    (coherent : memory.client.framebuffer.Coherent) {update : RectUpdate}
    (wellFormed : update.WellFormed memory.client.framebuffer.format.pixelBytes
      memory.client.framebuffer.extent) :
    Presents host update (decodeRect .bits64 update.rect update.encodingType) memory := by
  cases update with
  | raw rect pixels => exact decodeRaw_presents host attached coherent wellFormed
  | desktopSize rect => exact decodeDesktopSize_presents host coherent rect
  | cursor rect pixels bitmask => exact decodeCursor_presents host attached coherent wellFormed

/-! ## The rectangles of an update -/

/-- The header of a rectangle reads back as the rectangle and its encoding. -/
theorem rectHeader_decodes (update : RectUpdate) :
    (⟨readU16 update.header, readU16 (update.header.drop 2), readU16 (update.header.drop 4),
        readU16 (update.header.drop 6)⟩ : Rect) = update.rect ∧
      readS32 (update.header.drop 8) = update.encodingType := by
  have x : readU16 update.header = update.rect.x := readU16_writeU16 _ _
  have y : readU16 (update.header.drop 2) = update.rect.y := readU16_writeU16 _ _
  have width : readU16 (update.header.drop 4) = update.rect.width := readU16_writeU16 _ _
  have height : readU16 (update.header.drop 6) = update.rect.height := readU16_writeU16 _ _
  rw [x, y, width, height]
  exact ⟨rfl, readS32_writeS32 _ []⟩

/-- One pass of the loop decodes one encoded rectangle. -/
theorem run_handleRect (attached : memory.client.transport = some transport)
    (coherent : memory.client.framebuffer.Coherent) {update : RectUpdate}
    (wellFormed : update.WellFormed memory.client.framebuffer.format.pixelBytes
      memory.client.framebuffer.extent) :
    ∃ after later,
      (handleRect .bits64).run host.feed memory ⟨update.encode ++ rest, sent, fired, clock⟩ =
        (.returned (), memory.withFramebuffer after,
          ⟨rest, sent, fired ++ [update.callback].filter memory.client.callbacks.has, later⟩) ∧
      update.Shows memory.client.callbacks.allocFramebuffer memory.client.framebuffer after ∧
      after.Coherent := by
  obtain ⟨after, later, decoded, shown, kept⟩ :=
    decodeRect_presents host attached coherent wellFormed rest sent fired clock
  obtain ⟨rectExact, encodingExact⟩ := rectHeader_decodes update
  have received := run_transportRecv host attached (show update.header.length = 12 from rfl)
    (update.payload ++ rest) sent fired clock
  refine ⟨after, later, ?_, shown, kept⟩
  rw [handleRect, bind_eq, RectUpdate.encode, List.append_assoc, run_sequence_returned _ received,
    rectExact, encodingExact, decoded]

/-- A memory with another framebuffer record and loop position. -/
def Memory.showing (memory : Memory) (framebuffer : Framebuffer) (pending : Nat) : Memory :=
  { memory.withFramebuffer framebuffer with pendingRects := pending }

/-- The rectangle loop, by induction on the rectangles. Each one is decoded against
the record the ones before it left. -/
theorem run_handleRects (attached : memory.client.transport = some transport)
    (coherent : memory.client.framebuffer.Coherent) (updates : List RectUpdate)
    (wellFormed : RectUpdate.AllWellFormed memory.client.framebuffer.format.pixelBytes
      memory.client.framebuffer.extent updates) :
    ∃ after pending later,
      (handleRects .bits64 updates.length).run host.feed memory
          ⟨updates.flatMap RectUpdate.encode ++ rest, sent, fired, clock⟩ =
        (.returned (), memory.showing after pending,
          ⟨rest, sent, fired ++ (updates.map RectUpdate.callback).filter
            memory.client.callbacks.has, later⟩) ∧
      RectUpdate.ShowAll memory.client.callbacks.allocFramebuffer updates
        memory.client.framebuffer after ∧
      after.Coherent := by
  induction updates generalizing memory fired clock with
  | nil =>
    refine ⟨memory.client.framebuffer, memory.pendingRects, clock, ?_, rfl, coherent⟩
    simp [handleRects, Memory.showing, Memory.withFramebuffer]
  | cons update updates inductionHypothesis =>
    obtain ⟨first, others⟩ := wellFormed
    let counting : Memory := { memory with pendingRects := updates.length }
    obtain ⟨between, middle, decoded, shown, kept⟩ :=
      @run_handleRect host counting transport (updates.flatMap RectUpdate.encode ++ rest) sent
        fired clock attached coherent update first
    obtain ⟨format, size⟩ := shown.extent
    obtain ⟨after, pending, later, handled, shownLater, coherentLater⟩ :=
      @inductionHypothesis (counting.withFramebuffer between)
        (fired ++ [update.callback].filter memory.client.callbacks.has) middle attached kept
        (by
          rw [show (counting.withFramebuffer between).client.framebuffer = between from rfl, format,
            size]
          exact others)
    refine ⟨after, pending, later, ?_, ⟨between, shown, shownLater⟩, coherentLater⟩
    simp only [List.length_cons, handleRects, bind_eq, List.flatMap_cons, List.append_assoc]
    rw [run_update_then, run_sequence_returned _ decoded, handled,
      show (counting.withFramebuffer between).client.callbacks = memory.client.callbacks from rfl,
      List.append_assoc, ← List.filter_append]
    rfl

/-! ## Messages -/

/-- A routine that decodes a message: it consumes the encoding, calls the callbacks
that are set, and leaves a coherent record of what the message shows. -/
def Decoded (host : Host) (message : ServerMessage) (routine : Routine Unit) (memory : Memory)
    (input : List UInt8) : Prop :=
  ∀ rest sent fired clock, ∃ after pending later,
    routine.run host.feed memory ⟨input ++ rest, sent, fired, clock⟩ =
      (.returned (), memory.showing after pending,
        ⟨rest, sent, fired ++ message.callbacks.filter memory.client.callbacks.has, later⟩) ∧
    RectUpdate.ShowAll memory.client.callbacks.allocFramebuffer message.rects
      memory.client.framebuffer after ∧
    after.Coherent

/-- A message without rectangles leaves the picture alone. -/
theorem decoded_still {message : ServerMessage} {routine : Routine Unit} {input : List UInt8}
    (coherent : memory.client.framebuffer.Coherent) (still : message.rects = [])
    (ran : ∀ rest sent fired clock,
      routine.run host.feed memory ⟨input ++ rest, sent, fired, clock⟩ =
        (.returned (), memory,
          ⟨rest, sent, fired ++ message.callbacks.filter memory.client.callbacks.has, clock⟩)) :
    Decoded host message routine memory input := by
  intro rest sent fired clock
  refine ⟨memory.client.framebuffer, memory.pendingRects, clock, ran rest sent fired clock, ?_,
    coherent⟩
  rw [still]
  rfl

/-- FramebufferUpdate. The header gives the number of the rectangles, which are presented in their
order. -/
theorem handleFbUpdate_decoded (attached : memory.client.transport = some transport)
    (coherent : memory.client.framebuffer.Coherent) (rects : Counted (2 ^ 16) RectUpdate)
    (wellFormed : RectUpdate.AllWellFormed memory.client.framebuffer.format.pixelBytes
      memory.client.framebuffer.extent rects.val) :
    Decoded host (.framebufferUpdate rects) (handleFbUpdate .bits64) memory
      ([0] ++ writeU16 (UInt16.ofNat rects.val.length) ++
        rects.val.flatMap RectUpdate.encode) := by
  intro rest sent fired clock
  obtain ⟨after, pending, later, handled, shown, kept⟩ :=
    run_handleRects host rest sent fired clock attached coherent rects.val wellFormed
  refine ⟨after, pending, later, ?_, shown, kept⟩
  have received := run_transportRecv host attached
    (show ([0] ++ writeU16 (UInt16.ofNat rects.val.length)).length = 3 from rfl)
    (rects.val.flatMap RectUpdate.encode ++ rest) sent fired clock
  have count : readU16 (([0] ++ writeU16 (UInt16.ofNat rects.val.length)).drop 1) =
      UInt16.ofNat rects.val.length := readU16_writeU16 _ []
  rw [handleFbUpdate, bind_eq, List.append_assoc _ _ rest, run_sequence_returned _ received, count,
    UInt16.toNat_ofNat_of_lt' rects.property, bind_eq, run_sequence_returned _ handled, run_fire]
  rw [Feed.notified, ServerMessage.callbacks, List.filter_append, ← List.append_assoc]
  rfl

/-- A colour map entry is three numbers of two bytes. -/
theorem Color.encode_length (color : Color) : color.encode.length = 6 := rfl

/-- Reading one channel of encoded colours gives that channel of the colours. -/
theorem colorChannel_encode {channel : Nat} (part : Color → UInt16)
    (reads : ∀ (color : Color) rest, readU16 ((color.encode ++ rest).drop channel) = part color)
    (colors : List Color) :
    colorChannel (colors.flatMap Color.encode) colors.length channel = colors.map part := by
  induction colors with
  | nil => rfl
  | cons color colors inductionHypothesis =>
    have shift (i : Nat) :=
      Codec.drop_item Color.encode_length color (colors.flatMap Color.encode) i channel
    have head := reads color (colors.flatMap Color.encode)
    simp only [colorChannel, List.length_cons, List.range_succ_eq_map, List.map_cons, List.map_map,
      List.flatMap_cons, Nat.zero_mul, Nat.zero_add, head] at inductionHypothesis ⊢
    rw [← inductionHypothesis]
    congr 1
    apply List.map_congr_left
    intro i _
    simp only [Function.comp_apply, Nat.succ_eq_add_one, shift]

/-- SetColorMapEntries. The colours arrive with the first one's index, and the picture stays as it
is. -/
theorem handleColorMapEntries_decoded (attached : memory.client.transport = some transport)
    (coherent : memory.client.framebuffer.Coherent) (firstColor : UInt16)
    (colors : Counted (2 ^ 16) Color) :
    Decoded host (.setColorMapEntries firstColor colors) handleColorMapEntries memory
      ([0] ++ writeU16 firstColor ++ writeU16 (UInt16.ofNat colors.val.length) ++
        colors.val.flatMap Color.encode) := by
  apply decoded_still host coherent rfl
  intro rest sent fired clock
  have header := run_transportRecv host attached (show ([0] ++ writeU16 firstColor ++
    writeU16 (UInt16.ofNat colors.val.length)).length = 5 from rfl)
    (colors.val.flatMap Color.encode ++ rest) sent fired clock
  have first : readU16 (([0] ++ writeU16 firstColor ++
      writeU16 (UInt16.ofNat colors.val.length)).drop 1) = firstColor := readU16_writeU16 _ _
  have count : readU16 (([0] ++ writeU16 firstColor ++
      writeU16 (UInt16.ofNat colors.val.length)).drop 3) = UInt16.ofNat colors.val.length :=
    readU16_writeU16 _ []
  have size : (colors.val.flatMap Color.encode).length = colors.val.length * 6 :=
    Codec.flatMap_length Color.encode_length _
  have data := run_transportRecv host attached size rest sent fired clock
  rw [handleColorMapEntries, bind_eq, List.append_assoc _ _ rest, run_sequence_returned _ header,
    first, count]
  simp only [UInt16.toNat_ofNat_of_lt' colors.property]
  rw [bind_eq, run_malloc_then, bind_eq, run_failIf_then, if_neg (by decide), bind_eq,
    run_sequence_returned _ data, bind_eq, run_load_then,
    colorChannel_encode Color.red (fun _ _ => readU16_writeU16 _ _),
    colorChannel_encode Color.green (fun _ _ => readU16_writeU16 _ _),
    colorChannel_encode Color.blue (fun _ _ => readU16_writeU16 _ _)]
  by_cases set : memory.client.callbacks.colorMapUpdate
  · simp only [onlyIf, set, if_true, bind_eq]
    rw [run_malloc_then, run_malloc_then, run_malloc_then, run_failIf_then, if_neg (by decide),
      run_fire]
    rfl
  · simp [onlyIf, set, ServerMessage.callbacks, ClientCallbacks.has]

/-- ServerCutText. A text shorter than `2 ^ 32 - 1` arrives as it was sent, and the picture stays
as it is. -/
theorem handleServerCutText_decoded (attached : memory.client.transport = some transport)
    (coherent : memory.client.framebuffer.Coherent) (text : Counted (2 ^ 32 - 1) UInt8) :
    Decoded host (.serverCutText text) handleServerCutText memory
      ([0, 0, 0] ++ writeU32 (UInt32.ofNat text.val.length) ++ text.val) := by
  apply decoded_still host coherent rfl
  intro rest sent fired clock
  have header := run_transportRecv host attached
    (show ([0, 0, 0] ++ writeU32 (UInt32.ofNat text.val.length)).length = 7 from rfl)
    (text.val ++ rest) sent fired clock
  have length : readU32 (([0, 0, 0] ++ writeU32 (UInt32.ofNat text.val.length)).drop 3) =
      UInt32.ofNat text.val.length := readU32_writeU32 _ []
  rw [handleServerCutText, bind_eq, List.append_assoc _ _ rest, run_sequence_returned _ header,
    length]
  have small : text.val.length < 2 ^ 32 := Nat.lt_trans text.property (by decide)
  have exact : (UInt32.ofNat text.val.length).toNat = text.val.length :=
    UInt32.toNat_ofNat_of_lt' small
  by_cases something : 0 < UInt32.ofNat text.val.length
  · have received := run_transportRecv host attached exact.symm rest sent fired clock
    have capacity : (UInt32.ofNat text.val.length + 1).toNat = text.val.length + 1 := by
      rw [UInt32.toNat_add, exact]
      exact Nat.mod_eq_of_lt (Nat.add_lt_of_lt_sub text.property)
    rw [if_pos something, bind_eq, run_malloc_then, bind_eq, run_failIf_then, if_neg (by decide),
      bind_eq, run_faultIf_then, if_neg (by omega), bind_eq, run_sequence_returned _ received,
      bind_eq, run_faultIf_then, if_neg (by omega), run_fire]
    rfl
  · have nothing : text.val = [] := by
      rw [UInt32.lt_iff_toNat_lt, exact] at something
      exact List.eq_nil_of_length_eq_zero (by simpa using something)
    rw [if_neg something, run_fire]
    simp [Feed.notified, ServerMessage.callbacks, nothing]

/-- `ovnc__recv_server_message` decodes every message from its encoding: the first
byte selects the handler. -/
theorem recvServerMessage_decoded (attached : memory.client.transport = some transport)
    (coherent : memory.client.framebuffer.Coherent) (message : ServerMessage)
    (wellFormed : RectUpdate.AllWellFormed memory.client.framebuffer.format.pixelBytes
      memory.client.framebuffer.extent message.rects) :
    Decoded host message (recvServerMessage .bits64) memory message.encode := by
  intro rest sent fired clock
  have typed (msgType : UInt8) (body : List UInt8) :
      (recvServerMessage .bits64).run host.feed memory
          ⟨[msgType] ++ body ++ rest, sent, fired, clock⟩ =
        (if msgType = 0 then handleFbUpdate .bits64
          else if msgType = 1 then handleColorMapEntries
          else if msgType = 2 then handleBell
          else if msgType = 3 then handleServerCutText
          else fail .protocol).run host.feed memory ⟨body ++ rest, sent, fired, clock⟩ := by
    rw [recvServerMessage, bind_eq, List.append_assoc,
      run_sequence_returned _ (run_transportRecv host attached (show [msgType].length = 1 from rfl)
        (body ++ rest) sent fired clock)]
    rfl
  cases message with
  | framebufferUpdate rects =>
    obtain ⟨after, pending, later, handled, kept⟩ :=
      handleFbUpdate_decoded host attached coherent rects wellFormed rest sent fired clock
    exact ⟨after, pending, later, (typed 0 _).trans handled, kept⟩
  | setColorMapEntries firstColor colors =>
    obtain ⟨after, pending, later, handled, kept⟩ :=
      handleColorMapEntries_decoded host attached coherent firstColor colors rest sent fired clock
    exact ⟨after, pending, later, (typed 1 _).trans handled, kept⟩
  | bell =>
    refine ⟨memory.client.framebuffer, memory.pendingRects, clock, (typed 2 []).trans ?_, rfl,
      coherent⟩
    exact run_fire host .bell _
  | serverCutText text =>
    obtain ⟨after, pending, later, handled, kept⟩ :=
      handleServerCutText_decoded host attached coherent text rest sent fired clock
    exact ⟨after, pending, later, (typed 3 _).trans handled, kept⟩

end Rectangles

/-! ## Sequences of messages -/

/-- A number of calls of `ovnc__recv_server_message`, the first failure of which ends
the sequence. -/
def recvServerMessages (word : WordSize) : Nat → Routine Unit
  | 0 => return ()
  | messages + 1 => do
    recvServerMessage word
    recvServerMessages word messages

/-- From a coherent record, one call for each of any sequence of well-formed messages
returns without an error, whatever follows them. The suffix is left unread, nothing
is sent, the callbacks that are set run in the order and with the arguments of the
messages, and the record is coherent and shows what the messages describe. -/
theorem recvServerMessages_decode (host : Host) {memory : Memory} {transport : Transport}
    (attached : memory.client.transport = some transport)
    (coherent : memory.client.framebuffer.Coherent) (messages : List ServerMessage)
    (wellFormed : RectUpdate.AllWellFormed memory.client.framebuffer.format.pixelBytes
      memory.client.framebuffer.extent (messages.flatMap ServerMessage.rects))
    (suffix sent : List UInt8) (fired : List Callback) (clock : Nat) :
    ∃ after pending later,
      (recvServerMessages .bits64 messages.length).run host.feed memory
          ⟨messages.flatMap ServerMessage.encode ++ suffix, sent, fired, clock⟩ =
        (.returned (), memory.showing after pending,
          ⟨suffix, sent, fired ++ (messages.flatMap ServerMessage.callbacks).filter
            memory.client.callbacks.has, later⟩) ∧
      RectUpdate.ShowAll memory.client.callbacks.allocFramebuffer
        (messages.flatMap ServerMessage.rects) memory.client.framebuffer after ∧
      after.Coherent := by
  induction messages generalizing memory fired clock with
  | nil =>
    refine ⟨memory.client.framebuffer, memory.pendingRects, clock, ?_, rfl, coherent⟩
    simp [recvServerMessages, Memory.showing, Memory.withFramebuffer]
  | cons message messages inductionHypothesis =>
    rw [List.flatMap_cons, RectUpdate.allWellFormed_append] at wellFormed
    obtain ⟨first, others⟩ := wellFormed
    obtain ⟨between, middle, pending, decoded, shown, kept⟩ :=
      recvServerMessage_decoded host attached coherent message first
        (messages.flatMap ServerMessage.encode ++ suffix) sent fired clock
    obtain ⟨format, size⟩ := shown.extent
    obtain ⟨after, last, later, handled, shownLater, coherentLater⟩ :=
      @inductionHypothesis (memory.showing between middle) attached kept
        (by
          rw [show (memory.showing between middle).client.framebuffer = between from rfl, format,
            size]
          exact others)
        (fired ++ message.callbacks.filter memory.client.callbacks.has) pending
    refine ⟨after, last, later, ?_, shown.append shownLater, coherentLater⟩
    simp only [List.length_cons, recvServerMessages, bind_eq, List.flatMap_cons,
      List.append_assoc]
    rw [run_sequence_returned _ decoded, handled,
      show (memory.showing between middle).client.callbacks = memory.client.callbacks from rfl,
      List.append_assoc, ← List.filter_append]
    rfl

/-- A connected client with a picture of one pixel. -/
def pictureMemory : Memory :=
  ⟨{ plainClient {} with
      callbacks := { framebufferUpdate := true, desktopResize := true, cursorUpdate := true }
      state := .connected
      transport := some ⟨3⟩
      framebuffer := ⟨1, 1, .initDefault, some ⟨0, [0, 0, 0, 0]⟩, 4⟩ }, 1, 0⟩

/-- A pixel, a larger desktop, an empty cursor; then a bell and a text. -/
def pictureMessages : List ServerMessage :=
  [.framebufferUpdate ⟨[.raw ⟨0, 0, 1, 1⟩ [1, 2, 3, 4], .desktopSize ⟨0, 0, 2, 1⟩,
      .cursor ⟨1, 1, 0, 1⟩ [] []], by decide⟩,
    .bell, .serverCutText ⟨[104, 105], by decide⟩]

/-- An example with a picture to show: an update of three rectangles, a bell and a text are
decoded, and the byte that follows them is left. -/
theorem recvServerMessages_decode_picture : ∃ after pending later,
    (recvServerMessages .bits64 pictureMessages.length).run plainHost.feed pictureMemory
        ⟨pictureMessages.flatMap ServerMessage.encode ++ [7], [], [], 0⟩ =
      (.returned (), pictureMemory.showing after pending,
        ⟨[7], [], [] ++ (pictureMessages.flatMap ServerMessage.callbacks).filter
          pictureMemory.client.callbacks.has, later⟩) ∧
      RectUpdate.ShowAll false (pictureMessages.flatMap ServerMessage.rects)
        pictureMemory.client.framebuffer after ∧
      after.Coherent :=
  recvServerMessages_decode plainHost rfl ⟨by decide, by decide, by decide⟩ pictureMessages
    ⟨⟨by decide, by decide, by decide⟩, trivial, ⟨by decide, by decide⟩, trivial⟩ [7] [] [] 0

end OpenVnc
