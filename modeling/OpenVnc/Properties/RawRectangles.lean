import OpenVnc.Properties.MessageDecoding
import OpenVnc.Properties.FormatFailures
import OpenVnc.Frame

/-!
# Raw rectangles that do not fit

`ovnc__decode_raw` compares the end of each row with the size of the framebuffer's storage,
as an offset into it. A rectangle that overruns the framebuffer to the right can pass this
test: its rows run into the next row of the framebuffer. A rectangle without rows passes as
well. The condition under which a rectangle outside the framebuffer is rejected, and no
pixel outside the rectangle is changed, is stated in pixels.
-/

namespace OpenVnc

open Interaction Interaction.Program

/-- The pixels of a rectangle. -/
def Rect.Covers (rect : Rect) (x y : Nat) : Prop :=
  rect.x.toNat ≤ x ∧ x < rect.x.toNat + rect.width.toNat ∧
    rect.y.toNat ≤ y ∧ y < rect.y.toNat + rect.height.toNat

/-- The number of the first pixel after a row of a rectangle, counted from the first pixel
of a framebuffer of the given width. -/
def Rect.rowEnd (rect : Rect) (width row : Nat) : Nat :=
  (rect.y.toNat + row) * width + rect.x.toNat + rect.width.toNat

/-- The rectangle reaches beyond the right or the lower edge. -/
def Rect.Outside (rect : Rect) (size : Extent) : Prop :=
  size.width.toNat < rect.x.toNat + rect.width.toNat ∨
    size.height.toNat < rect.y.toNat + rect.height.toNat

/-- The byte with the given index belongs to no pixel outside the rectangle. -/
def Framebuffer.Within (framebuffer : Framebuffer) (rect : Rect) (index : Nat) : Prop :=
  ∀ x y byte, x < framebuffer.width.toNat → y < framebuffer.height.toNat →
    byte < framebuffer.format.pixelBytes →
    index = (y * framebuffer.width.toNat + x) * framebuffer.format.pixelBytes + byte →
      rect.Covers x y

/-- What is promised of a rectangle that lies partly or wholly outside the framebuffer. -/
structure RawRejected (rect : Rect) (memory : Memory) (events : List Step)
    (outcome : Outcome Error Fault Unit) (final : Memory) : Prop where
  unreturned : outcome = .waiting ∨ ∃ error, outcome = .failed error
  unreported : ∀ event ∈ events, ∀ call, event.request ≠ .callback call
  untouched : ∀ x y byte, x < memory.client.framebuffer.width.toNat →
    y < memory.client.framebuffer.height.toNat →
    byte < memory.client.framebuffer.format.pixelBytes → ¬ rect.Covers x y →
      final.client.framebuffer.pixelByte x y byte = memory.client.framebuffer.pixelByte x y byte

/-- The rectangle has rows, its last row ends after the last pixel of the framebuffer, and
so does its first, unless no row that is accepted can leave the rectangle: the rows are
empty, or end within the framebuffer's width, or start at its left edge in a rectangle that
reaches down to its last row. -/
def Rect.Refused (rect : Rect) (size : Extent) : Prop :=
  0 < rect.height.toNat ∧
    size.width.toNat * size.height.toNat <
      rect.rowEnd size.width.toNat (rect.height.toNat - 1) ∧
    (size.width.toNat * size.height.toNat < rect.rowEnd size.width.toNat 0 ∨
      rect.width.toNat = 0 ∨ rect.x.toNat + rect.width.toNat ≤ size.width.toNat ∨
      rect.x.toNat = 0 ∧ size.height.toNat ≤ rect.y.toNat + rect.height.toNat)

/-- Whether a rectangle is refused can be computed. -/
instance (rect : Rect) (size : Extent) : Decidable (rect.Refused size) := by
  unfold Rect.Refused
  infer_instance

/-! ## The rows -/

/-- The end of a row loop: it returns only when every row was accepted, and changes nothing
but bytes that are safe to change. -/
structure Painted (safe : Nat → Prop) (accepted : Prop) (memory : Memory)
    (outcome : Outcome Error Fault Unit) (final : Memory) : Prop where
  ended : outcome = .waiting ∨ (∃ error, outcome = .failed error) ∨
    outcome = .returned () ∧ accepted
  same : final.client.framebuffer =
    { memory.client.framebuffer with data := final.client.framebuffer.data }
  outside : ∀ index, ¬ safe index →
    final.client.framebuffer.byte index = memory.client.framebuffer.byte index

section Rows

variable {memory : Memory} {transport : Transport} {safe : Nat → Prop} {accepted : Prop}

/-- Bytes stored in a safe part of the block. -/
theorem Painted.stored {outcome : Outcome Error Fault Unit} {offset : Nat} {bytes : List UInt8}
    (ended : outcome = .waiting ∨ (∃ error, outcome = .failed error) ∨
      outcome = .returned () ∧ accepted)
    (inside : offset + bytes.length ≤ memory.client.framebuffer.capacity)
    (span : ∀ index, offset ≤ index → index < offset + bytes.length → safe index) :
    Painted safe accepted memory outcome (memory.stored offset bytes) where
  ended := ended
  same := rfl
  outside index unsafe_ := by
    have kept := @Framebuffer.stored_byte _ _ _ inside index
    rw [if_neg (fun within => unsafe_ (span index within.1 within.2))] at kept
    exact kept

/-- A loop that goes on after bytes have been stored. -/
theorem Painted.after {later : Prop} {middle final : Memory} {outcome : Outcome Error Fault Unit}
    (first : Painted safe True memory (.returned ()) middle)
    (rest : Painted safe later middle outcome final) (all : later → accepted) :
    Painted safe accepted memory outcome final where
  ended := rest.ended.imp_right (.imp_right (.imp_right all))
  same := by
    rw [rest.same, first.same]
  outside index unsafe_ := (rest.outside index unsafe_).trans (first.outside index unsafe_)

/-- The row loop, by induction on the rows. Each accepted row lies inside the block. -/
theorem decodeRawRows_painted (attached : memory.client.transport = some transport) (rect : Rect)
    {bpp rowBytes stride y rows : Nat} (small : bpp ≤ 4) (rowBound : rowBytes ≤ 2 ^ 18)
    (strideBound : stride ≤ 2 ^ 18) (below : y + rows < 2 ^ 16)
    (stored : memory.client.framebuffer.dataSize ≤ memory.client.framebuffer.capacity)
    (spans : ∀ row, y ≤ row → row < y + rows →
      (rect.y.toNat + row) * stride + rect.x.toNat * bpp + rowBytes ≤
        memory.client.framebuffer.dataSize →
      ∀ index, (rect.y.toNat + row) * stride + rect.x.toNat * bpp ≤ index →
        index < (rect.y.toNat + row) * stride + rect.x.toNat * bpp + rowBytes → safe index) :
    (decodeRawRows .bits64 rect bpp rowBytes stride y rows).wp Allowed
      (fun _ => Painted safe (∀ row, y ≤ row → row < y + rows →
        (rect.y.toNat + row) * stride + rect.x.toNat * bpp + rowBytes ≤
          memory.client.framebuffer.dataSize) memory) memory := by
  induction rows generalizing memory y with
  | zero =>
    refine ⟨.inr (.inr ⟨rfl, fun row notBefore before => ?_⟩), rfl, fun _ _ => rfl⟩
    omega
  | succ rows inductionHypothesis =>
    obtain ⟨offsetExact, endExact⟩ :=
      row_exact (y := y) rect small rowBound strideBound (by omega)
    simp only [decodeRawRows, offsetExact, endExact]
    by_cases rejected : (rect.y.toNat + y) * stride + rect.x.toNat * bpp + rowBytes >
        memory.client.framebuffer.dataSize
    · change (sequence (failIf _ _) _).wp _ _ memory
      rw [Program.wp_sequence, wp_failIf]
      exact ⟨fun _ => ⟨.inr (.inl ⟨_, rfl⟩), rfl, fun _ _ => rfl⟩,
        fun accepted => absurd rejected accepted⟩
    · have fits := Nat.not_lt.mp rejected
      have room := Nat.le_trans fits stored
      have span := spans y (Nat.le_refl y) (by omega) fits
      change (sequence (failIf _ _) _).wp _ _ memory
      rw [Program.wp_sequence, wp_failIf]
      refine ⟨fun impossible => absurd impossible rejected, fun _ => ?_⟩
      rw [continuing_returned, bind_eq, Program.wp_sequence, wp_transportRecvPixels]
      refine ⟨fun missing => absurd (attached.symm.trans missing) (by simp),
        fun _ _ => ⟨fun outside => absurd room (Nat.not_le.mpr outside), fun _ => ⟨?_, ?_, ?_⟩⟩⟩
      · exact ⟨.inl rfl, rfl, fun _ _ => rfl⟩
      · intro bytes size
        have length : bytes.length = rowBytes := size
        have inside : (rect.y.toNat + y) * stride + rect.x.toNat * bpp + bytes.length ≤
            memory.client.framebuffer.capacity := by omega
        have first : Painted safe True memory (.returned ())
            (memory.stored ((rect.y.toNat + y) * stride + rect.x.toNat * bpp) bytes) :=
          Painted.stored (.inr (.inr ⟨rfl, trivial⟩)) inside
            (fun index notBefore before => span index notBefore (by omega))
        have kept := Framebuffer.stored_capacity inside
        rw [continuing_returned]
        refine wp_mono (@inductionHypothesis
          (memory.stored ((rect.y.toNat + y) * stride + rect.x.toNat * bpp) bytes) attached (y + 1)
          (by omega) (Nat.le_trans stored (Nat.le_of_eq kept.symm))
          (fun row notBefore before => spans row (by omega) (by omega))) ?_
        intro later outcome final rest
        apply first.after rest
        intro others row notBefore before
        rcases Nat.eq_or_lt_of_le notBefore with rfl | after
        · exact fits
        · exact others row after (by omega)
      · intro received error short
        apply Painted.stored (.inr (.inl ⟨error, rfl⟩))
        · have := short.1
          omega
        · intro index notBefore before
          have := short.1
          exact span index notBefore (by omega)

end Rows

/-! ## Rectangles that are refused -/

section Refused

variable {memory : Memory} {transport : Transport} {rect : Rect}

/-- The test of a row, in pixels. -/
theorem rowEnd_accepted {width area bpp row : Nat} (positive : 0 < bpp) :
    (rect.y.toNat + row) * (width * bpp) + rect.x.toNat * bpp + rect.width.toNat * bpp ≤
      area * bpp ↔ rect.rowEnd width row ≤ area := by
  have bytes : (rect.y.toNat + row) * (width * bpp) + rect.x.toNat * bpp +
      rect.width.toNat * bpp = rect.rowEnd width row * bpp := by
    unfold Rect.rowEnd
    ring
  rw [bytes]
  exact Nat.mul_le_mul_right_iff positive

/-- Later rows end later. -/
theorem rowEnd_mono (rect : Rect) (width : Nat) {row later : Nat} (order : row ≤ later) :
    rect.rowEnd width row ≤ rect.rowEnd width later := by
  unfold Rect.rowEnd
  have := Nat.mul_le_mul_right width (Nat.add_le_add_left order rect.y.toNat)
  omega

/-- The line of a pixel that does not come before the start of a line. -/
theorem line_le {width line x y : Nat} (column : x < width)
    (notBefore : line * width ≤ y * width + x) : line ≤ y := by
  by_contra above
  have lines := Nat.mul_le_mul_right width (show y + 1 ≤ line by omega)
  rw [Nat.succ_mul] at lines
  omega

/-- The line of a pixel that comes before the end of a line. -/
theorem le_line {width line x y : Nat} (before : y * width + x < (line + 1) * width) :
    y ≤ line := by
  by_contra below
  have lines := Nat.mul_le_mul_right width (show line + 1 ≤ y by omega)
  omega

/-- A rectangle that is not refused although its last row is: an accepted row holds a pixel
outside the rectangle. -/
theorem Rect.spills {size : Extent} (accepted : ¬ rect.Refused size)
    (rows : 0 < rect.height.toNat)
    (last : size.width.toNat * size.height.toNat <
      rect.rowEnd size.width.toNat (rect.height.toNat - 1)) :
    ∃ row x y, row < rect.height.toNat ∧
      rect.rowEnd size.width.toNat row ≤ size.width.toNat * size.height.toNat ∧
      x < size.width.toNat ∧ y < size.height.toNat ∧ ¬ rect.Covers x y ∧
      (rect.y.toNat + row) * size.width.toNat + rect.x.toNat ≤ y * size.width.toNat + x ∧
      y * size.width.toNat + x < rect.rowEnd size.width.toNat row := by
  have unrefused : ¬ (size.width.toNat * size.height.toNat < rect.rowEnd size.width.toNat 0 ∨
      rect.width.toNat = 0 ∨ rect.x.toNat + rect.width.toNat ≤ size.width.toNat ∨
      rect.x.toNat = 0 ∧ size.height.toNat ≤ rect.y.toNat + rect.height.toNat) :=
    fun cases => accepted ⟨rows, last, cases⟩
  simp only [not_or, not_and, not_le, Nat.not_lt] at unrefused
  obtain ⟨first, nonempty, wide, unbounded⟩ := unrefused
  rcases Nat.eq_zero_or_pos rect.x.toNat with left | right
  · -- The last accepted row reaches the framebuffer's last line.
    have bottom := unbounded left
    obtain ⟨row, inside, fits, rejected⟩ : ∃ row, row + 1 < rect.height.toNat ∧
        rect.rowEnd size.width.toNat row ≤ size.width.toNat * size.height.toNat ∧
        size.width.toNat * size.height.toNat < rect.rowEnd size.width.toNat (row + 1) := by
      by_contra none
      have all : ∀ row < rect.height.toNat,
          rect.rowEnd size.width.toNat row ≤ size.width.toNat * size.height.toNat := by
        intro row
        induction row with
        | zero => exact fun _ => first
        | succ row inductionHypothesis =>
          intro inside
          by_contra rejected
          exact none ⟨row, inside, inductionHypothesis (by omega), by omega⟩
      have := all (rect.height.toNat - 1) (by omega)
      omega
    have area : size.width.toNat * size.height.toNat =
        (size.height.toNat - 1) * size.width.toNat + size.width.toNat := by
      rw [← Nat.succ_mul, Nat.mul_comm]
      congr 1
      omega
    have lines := Nat.mul_le_mul_right size.width.toNat
      (show rect.y.toNat + row ≤ size.height.toNat - 1 by omega)
    have next : (rect.y.toNat + (row + 1)) * size.width.toNat =
        (rect.y.toNat + row) * size.width.toNat + size.width.toNat := Nat.succ_mul ..
    unfold Rect.rowEnd at fits rejected
    refine ⟨row, 0, size.height.toNat - 1, by omega, fits, ?_, by omega, ?_, by omega, ?_⟩
    · by_contra zero
      have : size.width.toNat = 0 := by omega
      simp only [this, Nat.zero_mul, Nat.mul_zero] at fits
      omega
    · rintro ⟨-, -, -, below⟩
      omega
    · unfold Rect.rowEnd
      omega
  · rw [Rect.rowEnd, Nat.add_zero] at first
    have positive : 0 < size.width.toNat := by
      by_contra zero
      have : size.width.toNat = 0 := by omega
      simp only [this, Nat.zero_mul, Nat.mul_zero] at first
      omega
    by_cases inLine : rect.x.toNat < size.width.toNat
    · -- The first row runs into the next line.
      have next : (rect.y.toNat + 1) * size.width.toNat =
          rect.y.toNat * size.width.toNat + size.width.toNat := Nat.succ_mul ..
      refine ⟨0, 0, rect.y.toNat + 1, rows, first, positive, ?_, ?_, ?_, ?_⟩
      · by_contra last
        have lines := Nat.mul_le_mul_right size.width.toNat
          (show size.height.toNat ≤ rect.y.toNat + 1 by omega)
        rw [Nat.mul_comm size.height.toNat] at lines
        omega
      · rintro ⟨notLeft, -⟩
        omega
      · simp only [Nat.add_zero]
        omega
      · simp only [Rect.rowEnd, Nat.add_zero]
        omega
    · -- The first row starts on a later line.
      have place : (rect.y.toNat + rect.x.toNat / size.width.toNat) * size.width.toNat +
          rect.x.toNat % size.width.toNat = rect.y.toNat * size.width.toNat + rect.x.toNat := by
        rw [Nat.add_mul, Nat.add_assoc, Nat.div_add_mod']
      have column := Nat.mod_lt rect.x.toNat positive
      refine ⟨0, rect.x.toNat % size.width.toNat,
        rect.y.toNat + rect.x.toNat / size.width.toNat, rows, first, column, ?_, ?_, ?_, ?_⟩
      · by_contra last
        have lines := Nat.mul_le_mul_right size.width.toNat (Nat.not_lt.mp last)
        rw [Nat.mul_comm size.height.toNat] at lines
        omega
      · rintro ⟨notLeft, -⟩
        omega
      · simp only [Nat.add_zero]
        omega
      · simp only [Rect.rowEnd, Nat.add_zero]
        omega

/-- A pixel of an accepted row of a refused rectangle lies in the rectangle. -/
theorem Rect.Refused.covers {size : Extent} (refused : rect.Refused size) {row x y : Nat}
    (inside : row < rect.height.toNat)
    (accepted : rect.rowEnd size.width.toNat row ≤ size.width.toNat * size.height.toNat)
    (column : x < size.width.toNat) (line : y < size.height.toNat)
    (notBefore : (rect.y.toNat + row) * size.width.toNat + rect.x.toNat ≤ y * size.width.toNat + x)
    (before : y * size.width.toNat + x < rect.rowEnd size.width.toNat row) : rect.Covers x y := by
  have notAbove : rect.y.toNat + row ≤ y := line_le column (by omega)
  by_cases narrow : rect.x.toNat + rect.width.toNat ≤ size.width.toNat
  · -- Such a row lies on one line of the framebuffer.
    have sameLine : y = rect.y.toNat + row := by
      apply Nat.le_antisymm _ notAbove
      apply @le_line size.width.toNat _ x
      rw [Nat.succ_mul]
      unfold Rect.rowEnd at before
      omega
    subst sameLine
    unfold Rect.rowEnd at before
    exact ⟨by omega, by omega, by omega, by omega⟩
  · obtain ⟨rows, last, first | empty | fits | ⟨left, bottom⟩⟩ := refused
    · have := rowEnd_mono rect size.width.toNat (Nat.zero_le row)
      omega
    · unfold Rect.rowEnd at before
      omega
    · exact absurd fits narrow
    · exact ⟨by omega, by omega, by omega, by omega⟩

/-- The row of bytes that holds a byte of a pixel holds the pixel. -/
theorem pixel_within {bpp first last pixel byte : Nat} (inPixel : byte < bpp)
    (notBefore : first * bpp ≤ pixel * bpp + byte) (before : pixel * bpp + byte < last * bpp) :
    first ≤ pixel ∧ pixel < last := by
  constructor
  · by_contra earlier
    have bytes := Nat.mul_le_mul_right bpp (show pixel + 1 ≤ first by omega)
    rw [Nat.succ_mul] at bytes
    omega
  · by_contra later
    have bytes := Nat.mul_le_mul_right bpp (show last ≤ pixel by omega)
    omega

/-- A byte of an accepted row of a refused rectangle belongs to no pixel outside it. -/
theorem Rect.Refused.row_within {framebuffer : Framebuffer} (coherent : framebuffer.Coherent)
    (refused : rect.Refused framebuffer.extent) {row index : Nat} (inside : row < rect.height.toNat)
    (accepted : (rect.y.toNat + row) * (framebuffer.width.toNat * framebuffer.format.pixelBytes) +
      rect.x.toNat * framebuffer.format.pixelBytes +
      rect.width.toNat * framebuffer.format.pixelBytes ≤ framebuffer.dataSize)
    (notBefore : (rect.y.toNat + row) * (framebuffer.width.toNat * framebuffer.format.pixelBytes) +
      rect.x.toNat * framebuffer.format.pixelBytes ≤ index)
    (before : index < (rect.y.toNat + row) *
        (framebuffer.width.toNat * framebuffer.format.pixelBytes) +
      rect.x.toNat * framebuffer.format.pixelBytes +
      rect.width.toNat * framebuffer.format.pixelBytes) : framebuffer.Within rect index := by
  rintro x y byte column line inPixel rfl
  have start : (rect.y.toNat + row) * (framebuffer.width.toNat * framebuffer.format.pixelBytes) +
      rect.x.toNat * framebuffer.format.pixelBytes =
      ((rect.y.toNat + row) * framebuffer.width.toNat + rect.x.toNat) *
        framebuffer.format.pixelBytes := by ring
  rw [coherent.exact_size, rowEnd_accepted coherent.supported.pixelBytes_pos] at accepted
  rw [start] at notBefore before
  rw [← Nat.add_mul] at before
  obtain ⟨notLeft, notRight⟩ := pixel_within inPixel notBefore before
  exact refused.covers inside accepted column line notLeft notRight

/-- A refused rectangle is rejected, whatever arrives. -/
theorem decodeRaw_rejects (attached : memory.client.transport = some transport)
    (coherent : memory.client.framebuffer.Coherent)
    (refused : rect.Refused memory.client.framebuffer.extent) :
    (decodeRaw .bits64 rect).wp Allowed (RawRejected rect memory) memory := by
  have small := coherent.supported.pixelBytes_le
  have positive := coherent.supported.pixelBytes_pos
  obtain ⟨rowExact, rowBound⟩ := extent_exact rect.width small
  obtain ⟨strideExact, strideBound⟩ := extent_exact memory.client.framebuffer.width small
  have height : rect.height.toNat < 2 ^ 16 := UInt16.toNat_lt rect.height
  have painted := @decodeRawRows_painted memory transport
    (memory.client.framebuffer.Within rect) attached rect
    _ _ _ 0 rect.height.toNat small rowBound strideBound (by omega) coherent.stored
    (fun row _ inside accepted index => refused.row_within coherent (by omega) accepted)
  have silent := @decodeRawRows_decodes Allowed .bits64 rect
    memory.client.framebuffer.format.pixelBytes
    (rect.width.toNat * memory.client.framebuffer.format.pixelBytes)
    (memory.client.framebuffer.width.toNat * memory.client.framebuffer.format.pixelBytes)
    0 rect.height.toNat memory
  have rejected {events : List Step} {outcome : Outcome Error Fault Unit} {final : Memory}
      (ended : outcome = .waiting ∨ ∃ error, outcome = .failed error)
      (same : final.client.framebuffer =
        { memory.client.framebuffer with data := final.client.framebuffer.data })
      (outside : ∀ index, ¬ memory.client.framebuffer.Within rect index →
        final.client.framebuffer.byte index = memory.client.framebuffer.byte index)
      (decoding : ∀ event ∈ events, event.memory.placed = memory.placed ∧
        event.request.ofDecoding = true) : RawRejected rect memory events outcome final := by
    refine ⟨ended, fun event member call called => ?_, ?_⟩
    · have kind := (decoding event member).2
      rw [called] at kind
      cases kind
    · intro x y byte column line inPixel uncovered
      rw [Framebuffer.pixelByte, same]
      exact outside _ (fun within => uncovered (within x y byte column line inPixel rfl))
  simp only [decodeRaw, bind_eq]
  rw [Program.wp_sequence, wp_load, continuing_returned, ofInt_bytesPerPixel coherent.supported,
    rowExact, strideExact]
  apply wp_after (wp_and painted silent)
  · rintro events ⟨⟩ final ⟨⟨waits | ⟨error, fails⟩ | ⟨-, accepted⟩, -, -⟩, -⟩
    · cases waits
    · cases fails
    · -- The last row is not accepted.
      have last := accepted (rect.height.toNat - 1) (Nat.zero_le _) (by have := refused.1; omega)
      rw [coherent.exact_size, rowEnd_accepted positive] at last
      exact absurd refused.2.1 (Nat.not_lt.mpr last)
  · rintro events error final ⟨⟨-, same, outside⟩, -, decoding, -⟩
    exact rejected (.inr ⟨error, rfl⟩) same outside decoding
  · rintro events fault final ⟨⟨waits | ⟨error, fails⟩ | ⟨returns, -⟩, -, -⟩, -⟩
    · cases waits
    · cases fails
    · cases returns
  · rintro events final ⟨⟨-, same, outside⟩, -, decoding, -⟩
    exact rejected (.inl rfl) same outside decoding

end Refused

/-! ## Rectangles that are not refused -/

section Unrefused

variable (host : Host) {memory : Memory} {transport : Transport} {rect : Rect}

/-- A stream of equal bytes, as many as a rectangle has. -/
def Rect.filled (rect : Rect) (framebuffer : Framebuffer) (fill : UInt8) : Feed where
  unread := List.replicate
    (rect.height.toNat * (rect.width.toNat * framebuffer.format.pixelBytes)) fill

/-- The row loop against bytes that are all the same: a byte of an accepted row has that
value in the end, whether or not a later row is rejected. By induction on the rows; a row is
rejected only if every later row is. -/
theorem run_decodeRawRows_fill (attached : memory.client.transport = some transport) (rect : Rect)
    {bpp rowBytes stride y rows : Nat} (small : bpp ≤ 4) (rowBound : rowBytes ≤ 2 ^ 18)
    (strideBound : stride ≤ 2 ^ 18) (below : y + rows < 2 ^ 16)
    (stored : memory.client.framebuffer.dataSize ≤ memory.client.framebuffer.capacity)
    (fill : UInt8) (sent : List UInt8) (fired : List Callback) (clock : Nat) {index : Nat}
    (reached : memory.client.framebuffer.byte index = some fill ∨
      ∃ row, y ≤ row ∧ row < y + rows ∧
        (rect.y.toNat + row) * stride + rect.x.toNat * bpp + rowBytes ≤
          memory.client.framebuffer.dataSize ∧
        (rect.y.toNat + row) * stride + rect.x.toNat * bpp ≤ index ∧
        index < (rect.y.toNat + row) * stride + rect.x.toNat * bpp + rowBytes) :
    ((decodeRawRows .bits64 rect bpp rowBytes stride y rows).run host.feed memory
      ⟨List.replicate (rows * rowBytes) fill, sent, fired, clock⟩).2.1.client.framebuffer.byte
        index = some fill := by
  induction rows generalizing memory y with
  | zero =>
    rcases reached with before | ⟨row, notBefore, before, -⟩
    · exact before
    · omega
  | succ rows inductionHypothesis =>
    obtain ⟨offsetExact, endExact⟩ :=
      row_exact (y := y) rect small rowBound strideBound (by omega)
    simp only [decodeRawRows, offsetExact, endExact, bind_eq]
    rw [run_load_then, run_failIf_then]
    split
    · next rejected =>
      rcases reached with before | ⟨row, notBefore, before, accepted, -⟩
      · exact before
      · have lines := Nat.mul_le_mul_right stride (Nat.add_le_add_left notBefore rect.y.toNat)
        omega
    · next accepted =>
      have fits := Nat.not_lt.mp accepted
      have inside : (rect.y.toNat + y) * stride + rect.x.toNat * bpp +
          (List.replicate rowBytes fill).length ≤ memory.client.framebuffer.capacity := by
        rw [List.length_replicate]
        omega
      have received := run_transportRecvPixels host attached (List.length_replicate (a := fill))
        (Nat.le_trans fits stored) (List.replicate (rows * rowBytes) fill) sent fired clock
      rw [List.replicate_append_replicate, Nat.add_comm rowBytes, ← Nat.succ_mul] at received
      have written := @Framebuffer.stored_byte _ _ _ inside index
      have kept := Framebuffer.stored_capacity inside
      rw [run_sequence_returned _ received]
      apply @inductionHypothesis
        (memory.stored ((rect.y.toNat + y) * stride + rect.x.toNat * bpp)
          (List.replicate rowBytes fill)) attached (y + 1) (by omega)
        (Nat.le_trans stored (Nat.le_of_eq kept.symm))
      by_cases now : (rect.y.toNat + y) * stride + rect.x.toNat * bpp ≤ index ∧
          index < (rect.y.toNat + y) * stride + rect.x.toNat * bpp + rowBytes
      · left
        rw [List.length_replicate, if_pos now, List.getElem?_replicate_of_lt (by omega)] at written
        exact written
      · rcases reached with before | ⟨row, notBefore, before, accepted, span⟩
        · left
          rw [List.length_replicate, if_neg now] at written
          exact written.trans before
        · right
          have later : row ≠ y := by
            rintro rfl
            exact now span
          exact ⟨row, by omega, by omega, accepted, span⟩

/-- The report of a decoded rectangle changes nothing. -/
theorem run_decodeRaw_memory (coherent : memory.client.framebuffer.Coherent) (feed : Feed) :
    ((decodeRaw .bits64 rect).run host.feed memory feed).2.1 =
      ((decodeRawRows .bits64 rect memory.client.framebuffer.format.pixelBytes
        (rect.width.toNat * memory.client.framebuffer.format.pixelBytes)
        (memory.client.framebuffer.width.toNat * memory.client.framebuffer.format.pixelBytes)
        0 rect.height.toNat).run host.feed memory feed).2.1 := by
  have small := coherent.supported.pixelBytes_le
  simp only [decodeRaw, bind_eq]
  rw [run_load_then, ofInt_bytesPerPixel coherent.supported, (extent_exact rect.width small).1,
    (extent_exact memory.client.framebuffer.width small).1, run_sequence]
  cases ran : (decodeRawRows .bits64 rect memory.client.framebuffer.format.pixelBytes
      (rect.width.toNat * memory.client.framebuffer.format.pixelBytes)
      (memory.client.framebuffer.width.toNat * memory.client.framebuffer.format.pixelBytes)
      0 rect.height.toNat).run host.feed memory feed with
  | mk outcome rest =>
    obtain ⟨middle, later⟩ := rest
    cases outcome with
    | returned value =>
      rw [proceed, run_fire]
    | failed | faulted | waiting => rfl

/-- A rectangle without rows, or whose last row is accepted, is decoded. -/
theorem run_decodeRaw_accepted (attached : memory.client.transport = some transport)
    (coherent : memory.client.framebuffer.Coherent)
    (accepted : ∀ row < rect.height.toNat, rect.rowEnd memory.client.framebuffer.width.toNat row ≤
      memory.client.framebuffer.width.toNat * memory.client.framebuffer.height.toNat)
    (fill : UInt8) :
    ((decodeRaw .bits64 rect).run host.feed memory
      (rect.filled memory.client.framebuffer fill)).1 = .returned () := by
  have small := coherent.supported.pixelBytes_le
  obtain ⟨rowExact, rowBound⟩ := extent_exact rect.width small
  obtain ⟨strideExact, strideBound⟩ := extent_exact memory.client.framebuffer.width small
  have height : rect.height.toNat < 2 ^ 16 := UInt16.toNat_lt rect.height
  have within : ∀ row < rect.height.toNat,
      (rect.y.toNat + 0) * (memory.client.framebuffer.width.toNat *
        memory.client.framebuffer.format.pixelBytes) +
      rect.x.toNat * memory.client.framebuffer.format.pixelBytes +
      row * (memory.client.framebuffer.width.toNat * memory.client.framebuffer.format.pixelBytes) +
      rect.width.toNat * memory.client.framebuffer.format.pixelBytes ≤
        memory.client.framebuffer.dataSize := by
    intro row inside
    rw [coherent.exact_size]
    refine Nat.le_trans (Nat.le_of_eq ?_)
      ((rowEnd_accepted coherent.supported.pixelBytes_pos).mpr (accepted row inside))
    ring
  have decoded := run_decodeRawRows host [] [] [] 0 attached rect (y := 0) small rowBound
    strideBound (by omega) (List.length_replicate (a := fill)) within coherent.stored
  rw [List.append_nil] at decoded
  simp only [decodeRaw, bind_eq, Rect.filled]
  rw [run_load_then, ofInt_bytesPerPixel coherent.supported, rowExact, strideExact,
    run_sequence_returned _ decoded, run_fire]

/-- A rectangle that spills over: some environment makes a row change a pixel outside it. -/
theorem run_decodeRaw_spills (attached : memory.client.transport = some transport)
    (coherent : memory.client.framebuffer.Coherent) {row x y : Nat}
    (inside : row < rect.height.toNat)
    (accepted : rect.rowEnd memory.client.framebuffer.width.toNat row ≤
      memory.client.framebuffer.width.toNat * memory.client.framebuffer.height.toNat)
    (notBefore : (rect.y.toNat + row) * memory.client.framebuffer.width.toNat + rect.x.toNat ≤
      y * memory.client.framebuffer.width.toNat + x)
    (before : y * memory.client.framebuffer.width.toNat + x <
      rect.rowEnd memory.client.framebuffer.width.toNat row) (fill : UInt8) :
    ((decodeRaw .bits64 rect).run host.feed memory
      (rect.filled memory.client.framebuffer fill)).2.1.client.framebuffer.pixelByte x y 0 =
        some fill := by
  have small := coherent.supported.pixelBytes_le
  have positive := coherent.supported.pixelBytes_pos
  obtain ⟨-, rowBound⟩ := extent_exact rect.width small
  obtain ⟨-, strideBound⟩ := extent_exact memory.client.framebuffer.width small
  have height : rect.height.toNat < 2 ^ 16 := UInt16.toNat_lt rect.height
  have start : (rect.y.toNat + row) * (memory.client.framebuffer.width.toNat *
      memory.client.framebuffer.format.pixelBytes) +
        rect.x.toNat * memory.client.framebuffer.format.pixelBytes =
      ((rect.y.toNat + row) * memory.client.framebuffer.width.toNat + rect.x.toNat) *
        memory.client.framebuffer.format.pixelBytes := by ring
  have fits := (rowEnd_accepted positive).mpr accepted
  rw [← coherent.exact_size] at fits
  have filled := @run_decodeRawRows_fill host memory transport attached rect _ _ _ 0
    rect.height.toNat small rowBound strideBound (by omega) coherent.stored fill [] [] 0
    ((y * memory.client.framebuffer.width.toNat + x) *
      memory.client.framebuffer.format.pixelBytes + 0)
    (.inr ⟨row, Nat.zero_le row, by omega, fits, by
      rw [start]
      exact Nat.mul_le_mul_right _ notBefore, by
      rw [start, ← Nat.add_mul]
      exact Nat.mul_lt_mul_of_pos_right before positive⟩)
  -- The fields of the record are as before, so that the pixel is where it was.
  have painted := @decodeRawRows_painted memory transport (fun _ => True) attached rect
    _ _ _ 0 rect.height.toNat small rowBound strideBound (by omega) coherent.stored
    (fun _ _ _ _ _ _ _ => trivial)
  have same := ((wp_iff _ _ _).mp painted _ _ _ (run_execution host.feed Allowed
    (fun request feed answer later answered =>
      (host.feed_provisioned request feed answer later answered).1) _ memory
    (rect.filled memory.client.framebuffer fill))).same
  rw [run_decodeRaw_memory host coherent, Framebuffer.pixelByte, same]
  exact filled

end Unrefused

/-- For a coherent framebuffer, the Raw decoder rejects a rectangle outside it, whatever the
server sends, exactly when the rectangle is refused. -/
theorem decodeRaw_rejects_iff {memory : Memory} {transport : Transport}
    (attached : memory.client.transport = some transport)
    (coherent : memory.client.framebuffer.Coherent) {rect : Rect}
    (_outside : rect.Outside memory.client.framebuffer.extent) :
    (∀ events outcome final, Execution Allowed (decodeRaw .bits64 rect) memory events outcome
      final → RawRejected rect memory events outcome final) ↔
        rect.Refused memory.client.framebuffer.extent := by
  constructor
  · intro rejected
    by_contra accepted
    have executed (fill : UInt8) := rejected _ _ _ (run_execution plainHost.feed Allowed
      (fun request feed answer later answered =>
        (plainHost.feed_provisioned request feed answer later answered).1) _ memory
      (rect.filled memory.client.framebuffer fill))
    by_cases all : ∀ row < rect.height.toNat,
        rect.rowEnd memory.client.framebuffer.width.toNat row ≤
          memory.client.framebuffer.width.toNat * memory.client.framebuffer.height.toNat
    · have returned := run_decodeRaw_accepted plainHost attached coherent all 0
      rcases (executed 0).unreturned with waits | ⟨error, fails⟩
      · cases returned.symm.trans waits
      · cases returned.symm.trans fails
    · push Not at all
      obtain ⟨row, inside, overrun⟩ := all
      have last := Nat.lt_of_lt_of_le overrun (rowEnd_mono rect
        memory.client.framebuffer.width.toNat (show row ≤ rect.height.toNat - 1 by omega))
      obtain ⟨first, x, y, within, fits, column, line, uncovered, notBefore, before⟩ :=
        Rect.spills accepted (by omega) last
      obtain ⟨fill, other⟩ : ∃ fill : UInt8,
          memory.client.framebuffer.pixelByte x y 0 ≠ some fill := by
        by_cases zero : memory.client.framebuffer.pixelByte x y 0 = some 0
        · exact ⟨1, by simp [zero]⟩
        · exact ⟨0, zero⟩
      have spilled := run_decodeRaw_spills plainHost attached coherent within fits notBefore
        before fill
      have kept := (executed fill).untouched x y 0 column line
        coherent.supported.pixelBytes_pos uncovered
      exact other (kept.symm.trans spilled)
  · intro refused events outcome final execution
    exact (wp_iff _ _ _).mp (decodeRaw_rejects attached coherent refused) _ _ _ execution

/-- A connected client with a grey picture of two by two pixels. -/
def squareMemory : Memory :=
  ⟨{ plainClient { framebufferUpdate := true } with
      state := .connected
      transport := some ⟨3⟩
      framebuffer := ⟨2, 2, greyFormat, some ⟨0, [0, 0, 0, 0]⟩, 4⟩ }, 1, 0⟩

/-- The example's record is coherent. -/
theorem squareMemory_coherent : squareMemory.client.framebuffer.Coherent :=
  ⟨by decide, by decide, by decide⟩

/-- A rectangle below the picture. -/
theorem decodeRaw_rejects_below :
    Rect.Outside ⟨0, 2, 1, 1⟩ squareMemory.client.framebuffer.extent ∧ ∀ events outcome final,
      Execution Allowed (decodeRaw .bits64 ⟨0, 2, 1, 1⟩) squareMemory events outcome final →
        RawRejected ⟨0, 2, 1, 1⟩ squareMemory events outcome final := by
  have outside : Rect.Outside ⟨0, 2, 1, 1⟩ squareMemory.client.framebuffer.extent :=
    .inr (by decide)
  constructor
  · exact outside
  · apply (@decodeRaw_rejects_iff squareMemory _ rfl squareMemory_coherent ⟨0, 2, 1, 1⟩ outside).mpr
    decide

/-- A row that starts at the right edge of the picture runs into the next line. -/
theorem decodeRaw_spills_right : squareMemory.client.framebuffer.Coherent ∧
    Rect.Outside ⟨1, 0, 2, 1⟩ squareMemory.client.framebuffer.extent ∧
    ¬ ∀ events outcome final,
      Execution Allowed (decodeRaw .bits64 ⟨1, 0, 2, 1⟩) squareMemory events outcome final →
        RawRejected ⟨1, 0, 2, 1⟩ squareMemory events outcome final := by
  refine ⟨squareMemory_coherent, .inl (by decide), fun rejected => ?_⟩
  have executed := run_execution plainHost.feed Allowed (fun request feed answer later answered =>
    (plainHost.feed_provisioned request feed answer later answered).1)
    (decodeRaw .bits64 ⟨1, 0, 2, 1⟩) squareMemory { unread := [7, 7] }
  have kept := (rejected _ _ _ executed).untouched 0 1 0 (by decide) (by decide) (by decide)
    (fun covered => absurd covered.1 (by decide))
  revert kept
  decide

end OpenVnc
