import OpenVnc.Properties.RawRectangles
import OpenVnc.Properties.Truncation
import Mathlib.Data.List.Basic

/-!
# The language of the client

Which bytes of a server the client takes for messages. A message is given by its encoding
with any padding, a rectangle by what its decoder tests: the rows of a Raw rectangle may run
beyond the right edge as long as the last one ends within the framebuffer. The decoders are
followed from the rows up. At each level every encoding is taken, and bytes that begin with
none bring the routine to no result.
-/

namespace OpenVnc

open Interaction Interaction.Program

/-! ## Encodings -/

namespace RectUpdate

/-- What the decoder asks of a rectangle. Each row of a Raw rectangle ends within the
framebuffer, counted from its first pixel. -/
def Accepted (bpp : Nat) (size : Extent) : RectUpdate → Prop
  | raw rect pixels =>
      (∀ row < rect.height.toNat,
        rect.rowEnd size.width.toNat row ≤ size.width.toNat * size.height.toNat) ∧
        pixels.length = rect.width.toNat * rect.height.toNat * bpp
  | desktopSize _ => True
  | cursor rect pixels bitmask =>
      pixels.length = rect.width.toNat * rect.height.toNat * bpp ∧
        bitmask.length = (rect.width.toNat + 7) / 8 * rect.height.toNat

/-- Each rectangle is accepted at the size the rectangles before it leave. -/
def AllAccepted (bpp : Nat) : Extent → List RectUpdate → Prop
  | _, [] => True
  | size, update :: updates =>
      update.Accepted bpp size ∧ AllAccepted bpp (update.resize size) updates

/-- A rectangle inside the framebuffer is accepted. -/
theorem WellFormed.accepted {bpp : Nat} {size : Extent} {update : RectUpdate}
    (wellFormed : update.WellFormed bpp size) : update.Accepted bpp size := by
  cases update with
  | raw rect pixels =>
    obtain ⟨columns, rows, length⟩ := wellFormed
    refine ⟨fun row inside => ?_, length⟩
    have lines := Nat.mul_le_mul_right size.width.toNat
      (show rect.y.toNat + row + 1 ≤ size.height.toNat by omega)
    rw [Nat.succ_mul, Nat.mul_comm size.height.toNat] at lines
    unfold Rect.rowEnd
    omega
  | desktopSize rect => trivial
  | cursor rect pixels bitmask => exact wellFormed

/-- Rectangles are accepted one after the other: those that come later are judged by the size that
the earlier ones leave. -/
theorem allAccepted_append (bpp : Nat) (size : Extent) (earlier later : List RectUpdate) :
    AllAccepted bpp size (earlier ++ later) ↔
      AllAccepted bpp size earlier ∧ AllAccepted bpp (resizeAll size earlier) later := by
  induction earlier generalizing size with
  | nil => simp [AllAccepted, resizeAll]
  | cons update updates inductionHypothesis =>
    rw [List.cons_append, AllAccepted, AllAccepted, inductionHypothesis, and_assoc]
    rfl

end RectUpdate

/-- The bytes encode the message, whatever its padding holds. -/
inductive ServerMessage.Encodes : ServerMessage → List UInt8 → Prop where
  | framebufferUpdate (rects : Counted (2 ^ 16) RectUpdate) {padding : List UInt8}
      (size : padding.length = 1) : Encodes (.framebufferUpdate rects)
        ([0] ++ (padding ++ writeU16 (UInt16.ofNat rects.val.length) ++
          rects.val.flatMap RectUpdate.encode))
  | setColorMapEntries (firstColor : UInt16) (colors : Counted (2 ^ 16) Color)
      {padding : List UInt8} (size : padding.length = 1) :
      Encodes (.setColorMapEntries firstColor colors)
        ([1] ++ (padding ++ writeU16 firstColor ++ writeU16 (UInt16.ofNat colors.val.length) ++
          colors.val.flatMap Color.encode))
  | bell : Encodes .bell [2]
  | serverCutText (text : Counted (2 ^ 32 - 1) UInt8) {padding : List UInt8}
      (size : padding.length = 3) : Encodes (.serverCutText text)
        ([3] ++ (padding ++ writeU32 (UInt32.ofNat text.val.length) ++ text.val))

/-- The encoding of a message has at least the byte of its type, so that a stream of messages
cannot go on without end. -/
theorem ServerMessage.Encodes.ne_nil {message : ServerMessage} {bytes : List UInt8}
    (encodes : message.Encodes bytes) : bytes ≠ [] := by
  cases encodes <;> simp

/-- The end of a routine that came to no result and reported nothing. -/
structure Halted {α : Type} (fired : List Callback) (ran : Outcome Error Fault α × Memory × Feed) :
    Prop where
  outcome : ran.1 = .waiting ∨ ran.1 = .failed .protocol ∨ ran.1 = .failed .encodingUnsupported
  silent : ran.2.2.fired = fired

/-- A routine that halted gave no result, whatever value one asks for. -/
theorem Halted.unreturned {α : Type} {fired : List Callback}
    {ran : Outcome Error Fault α × Memory × Feed} (halted : Halted fired ran) (value : α) :
    ran.1 ≠ .returned value := by
  intro returned
  rcases halted.outcome with other | other | other <;> cases returned.symm.trans other

/-- A routine whose first part halts. -/
theorem Halted.sequence {α β : Type} {host : Host} {fired : List Callback} {first : Routine α}
    {memory : Memory} {feed : Feed} (halted : Halted fired (first.run host.feed memory feed))
    (following : α → Routine β) :
    Halted fired ((sequence first following).run host.feed memory feed) := by
  rw [run_sequence]
  revert halted
  rcases first.run host.feed memory feed with ⟨outcome, middle, later⟩
  rintro ⟨waits | fails | fails, silent⟩ <;> subst_vars
  · exact ⟨.inl rfl, rfl⟩
  · exact ⟨.inr (.inl rfl), rfl⟩
  · exact ⟨.inr (.inr rfl), rfl⟩

/-- The front of a list that is long enough. -/
theorem exists_front {α : Type} {list : List α} {count : Nat} (enough : count ≤ list.length) :
    ∃ front rest, list = front ++ rest ∧ front.length = count :=
  ⟨list.take count, list.drop count, (List.take_append_drop count list).symm,
    List.length_take_of_le enough⟩

section Receiving

variable (host : Host) {memory : Memory} {transport : Transport} (input sent : List UInt8)
  (fired : List Callback) (clock : Nat)

/-- A receive that is followed by more either takes its bytes or waits. -/
theorem run_transportRecv_then {α : Type} (attached : memory.client.transport = some transport)
    (len : Nat) (following : List UInt8 → Routine α) :
    (sequence (transportRecv len) following).run host.feed memory ⟨input, sent, fired, clock⟩ =
      if len ≤ input.length then
        (following (input.take len)).run host.feed memory ⟨input.drop len, sent, fired, clock⟩
      else (.waiting, memory, ⟨input, sent, fired, clock⟩) := by
  split
  · next enough =>
    have received := run_transportRecv host attached (List.length_take_of_le enough)
      (input.drop len) sent fired clock
    rw [List.take_append_drop] at received
    exact run_sequence_returned _ received
  · next short =>
    exact run_sequence_waiting host (run_transportRecv_short host sent fired clock attached
      (Nat.not_le.mp short))

/-- A receive into the framebuffer waits as long as bytes are missing. -/
theorem run_transportRecvPixels_short (attached : memory.client.transport = some transport)
    {len offset : Nat} (short : input.length < len)
    (room : offset + len ≤ memory.client.framebuffer.capacity) :
    (transportRecvPixels offset len).run host.feed memory ⟨input, sent, fired, clock⟩ =
      (.waiting, memory, ⟨input, sent, fired, clock⟩) := by
  have unanswered : host.feed (.recv len) ⟨input, sent, fired, clock⟩ =
      (none, ⟨input, sent, fired, clock⟩) := if_neg (Nat.not_le.mpr short)
  rw [transportRecvPixels, bind_eq, run_sequence_returned _ (run_derefTransport attached _),
    bind_eq, run_load_then, bind_eq, run_faultIf_then, if_neg (Nat.not_lt.mpr room)]
  change (asking (Request.recv len) _).run host.feed memory _ = _
  simp only [run, unanswered]

end Receiving

/-! ## Rectangles -/

section Rectangles

variable (host : Host) {memory : Memory} {transport : Transport} (sent : List UInt8)
  (fired : List Callback) (clock : Nat)

/-- The row loop on any bytes: either they begin with the pixels of rows that all end within
the storage, or the loop halts. -/
theorem decodeRawRows_parses (attached : memory.client.transport = some transport) (rect : Rect)
    {bpp rowBytes stride y rows : Nat} (small : bpp ≤ 4) (rowBound : rowBytes ≤ 2 ^ 18)
    (strideBound : stride ≤ 2 ^ 18) (below : y + rows < 2 ^ 16)
    (stored : memory.client.framebuffer.dataSize ≤ memory.client.framebuffer.capacity)
    (input : List UInt8) :
    (rows * rowBytes ≤ input.length ∧
      ∀ row < rows, (rect.y.toNat + y) * stride + rect.x.toNat * bpp + row * stride + rowBytes ≤
        memory.client.framebuffer.dataSize) ∨
      Halted fired ((decodeRawRows .bits64 rect bpp rowBytes stride y rows).run host.feed memory
        ⟨input, sent, fired, clock⟩) := by
  induction rows generalizing memory y input with
  | zero => exact .inl ⟨by omega, fun row inside => absurd inside (Nat.not_lt_zero row)⟩
  | succ rows inductionHypothesis =>
    obtain ⟨offsetExact, endExact⟩ :=
      row_exact (y := y) rect small rowBound strideBound (by omega)
    simp only [decodeRawRows, offsetExact, endExact, bind_eq]
    rw [run_load_then, run_failIf_then]
    split
    · exact .inr ⟨.inr (.inl rfl), rfl⟩
    · next accepted =>
      have fits := Nat.not_lt.mp accepted
      have room := Nat.le_trans fits stored
      by_cases enough : rowBytes ≤ input.length
      · have taken : (input.take rowBytes).length = rowBytes := List.length_take_of_le enough
        have received := run_transportRecvPixels host attached taken room (input.drop rowBytes)
          sent fired clock
        have kept : (memory.stored ((rect.y.toNat + y) * stride + rect.x.toNat * bpp)
            (input.take rowBytes)).client.framebuffer.capacity =
              memory.client.framebuffer.capacity := Framebuffer.stored_capacity (by omega)
        rw [List.take_append_drop] at received
        rw [run_sequence_returned _ received]
        refine (@inductionHypothesis (memory.stored _ (input.take rowBytes)) attached (y + 1)
          (by omega) (Nat.le_trans stored (Nat.le_of_eq kept.symm)) (input.drop rowBytes)).imp_left
          ?_
        rintro ⟨length, others⟩
        rw [List.length_drop] at length
        rw [nextRow] at others
        refine ⟨by rw [Nat.succ_mul]; omega, fun row inside => ?_⟩
        cases row with
        | zero => simpa using fits
        | succ row =>
          have later := others row (by omega)
          have counted : (row + 1) * stride = row * stride + stride := Nat.succ_mul row stride
          have same : (memory.stored ((rect.y.toNat + y) * stride + rect.x.toNat * bpp)
            (input.take rowBytes)).client.framebuffer.dataSize =
              memory.client.framebuffer.dataSize := rfl
          omega
      · rw [run_sequence_waiting host (run_transportRecvPixels_short host input sent fired clock
          attached (Nat.not_le.mp enough) room)]
        exact .inr ⟨.inl rfl, rfl⟩

/-- The rows of an accepted rectangle, in bytes. -/
theorem rows_within {framebuffer : Framebuffer} (coherent : framebuffer.Coherent) (rect : Rect)
    (rows : Nat) :
    (∀ row < rows, (rect.y.toNat + 0) * (framebuffer.width.toNat * framebuffer.format.pixelBytes) +
      rect.x.toNat * framebuffer.format.pixelBytes +
      row * (framebuffer.width.toNat * framebuffer.format.pixelBytes) +
      rect.width.toNat * framebuffer.format.pixelBytes ≤ framebuffer.dataSize) ↔
    ∀ row < rows, rect.rowEnd framebuffer.width.toNat row ≤
      framebuffer.width.toNat * framebuffer.height.toNat := by
  refine forall_congr' (fun row => imp_congr_right (fun _ => ?_))
  rw [coherent.exact_size, ← rowEnd_accepted coherent.supported.pixelBytes_pos]
  apply Eq.to_iff
  congr 1
  ring

/-- A routine that consumes the payload of a rectangle, reports the rectangle and leaves a
coherent record of the announced size. -/
def Takes (update : RectUpdate) (routine : Routine Unit) (memory : Memory) : Prop :=
  ∀ rest sent fired clock, ∃ after later,
    routine.run host.feed memory ⟨update.payload ++ rest, sent, fired, clock⟩ =
      (.returned (), memory.withFramebuffer after,
        ⟨rest, sent, fired ++ [update.callback].filter memory.client.callbacks.has, later⟩) ∧
    after.format = memory.client.framebuffer.format ∧
    after.extent = update.resize memory.client.framebuffer.extent ∧ after.Coherent

/-- A routine that presents a rectangle takes it. What the rectangle shows is forgotten, and only
the format and the size are kept. -/
theorem Presents.takes {update : RectUpdate} {routine : Routine Unit}
    (presents : Presents host update routine memory) : Takes host update routine memory := by
  intro rest sent fired clock
  obtain ⟨after, later, ran, shown, coherent⟩ := presents rest sent fired clock
  exact ⟨after, later, ran, shown.extent.1, shown.extent.2, coherent⟩

/-- Raw. The bytes an accepted rectangle brings are taken by `ovnc__decode_raw`, even where its
rows run over the right edge of the framebuffer. -/
theorem decodeRaw_takes (attached : memory.client.transport = some transport)
    (coherent : memory.client.framebuffer.Coherent) {rect : Rect} {pixels : List UInt8}
    (accepted : (RectUpdate.raw rect pixels).Accepted
      memory.client.framebuffer.format.pixelBytes memory.client.framebuffer.extent) :
    Takes host (.raw rect pixels) (decodeRaw .bits64 rect) memory := by
  intro rest sent fired clock
  have small := coherent.supported.pixelBytes_le
  obtain ⟨rowExact, rowBound⟩ := extent_exact rect.width small
  obtain ⟨strideExact, strideBound⟩ := extent_exact memory.client.framebuffer.width small
  have height : rect.height.toNat < 2 ^ 16 := UInt16.toNat_lt rect.height
  have within := (rows_within coherent rect _).mpr accepted.1
  have size : pixels.length = rect.height.toNat *
      (rect.width.toNat * memory.client.framebuffer.format.pixelBytes) := by
    rw [accepted.2]
    ring
  have painted := run_decodeRawRows host rest sent fired clock attached rect (y := 0) small
    rowBound strideBound (by omega) size within coherent.stored
  have kept := paintRows_coherent coherent (Nat.le_of_eq size)
    (fun row inside => Nat.le_trans (within row inside) coherent.stored)
  refine ⟨_, clock, ?_, ?_, ?_, kept⟩
  · simp only [decodeRaw, bind_eq, RectUpdate.payload]
    rw [run_load_then, ofInt_bytesPerPixel coherent.supported, rowExact, strideExact,
      run_sequence_returned _ painted, run_fire]
    rfl
  · rw [paintRows_same]
  · rw [paintRows_same]
    rfl

/-- `ovnc__decode_rect` decodes what is accepted. -/
theorem decodeRect_takes (attached : memory.client.transport = some transport)
    (coherent : memory.client.framebuffer.Coherent) {update : RectUpdate}
    (accepted : update.Accepted memory.client.framebuffer.format.pixelBytes
      memory.client.framebuffer.extent) :
    Takes host update (decodeRect .bits64 update.rect update.encodingType) memory := by
  cases update with
  | raw rect pixels => exact decodeRaw_takes host attached coherent accepted
  | desktopSize rect => exact (decodeDesktopSize_presents host coherent rect).takes
  | cursor rect pixels bitmask =>
    exact (decodeCursor_presents host attached coherent accepted).takes

/-- Any input of `ovnc__decode_raw` begins with the pixels of an accepted rectangle, or else the
routine halts on it without a callback. -/
theorem decodeRaw_parses (attached : memory.client.transport = some transport)
    (coherent : memory.client.framebuffer.Coherent) (rect : Rect) (input : List UInt8) :
    (∃ pixels rest, input = pixels ++ rest ∧ (RectUpdate.raw rect pixels).Accepted
      memory.client.framebuffer.format.pixelBytes memory.client.framebuffer.extent) ∨
      Halted fired ((decodeRaw .bits64 rect).run host.feed memory ⟨input, sent, fired, clock⟩) := by
  have small := coherent.supported.pixelBytes_le
  obtain ⟨rowExact, rowBound⟩ := extent_exact rect.width small
  obtain ⟨strideExact, strideBound⟩ := extent_exact memory.client.framebuffer.width small
  have height : rect.height.toNat < 2 ^ 16 := UInt16.toNat_lt rect.height
  refine (decodeRawRows_parses host sent fired clock attached rect small rowBound strideBound
    (show 0 + rect.height.toNat < 2 ^ 16 by omega) coherent.stored input).imp ?_ ?_
  · rintro ⟨enough, within⟩
    refine ⟨input.take _, input.drop _, (List.take_append_drop _ input).symm,
      (rows_within coherent rect _).mp within, (List.length_take_of_le enough).trans ?_⟩
    ring
  · intro halted
    simp only [decodeRaw, bind_eq]
    rw [run_load_then, ofInt_bytesPerPixel coherent.supported, rowExact, strideExact]
    exact halted.sequence _

/-- A cursor as its decoder sees it: so many bytes, the mask after the pixels. -/
theorem decodeCursor_parses (attached : memory.client.transport = some transport)
    (coherent : memory.client.framebuffer.Coherent) (rect : Rect) (input : List UInt8) :
    (∃ pixels bitmask rest, input = pixels ++ bitmask ++ rest ∧
      (RectUpdate.cursor rect pixels bitmask).Accepted
        memory.client.framebuffer.format.pixelBytes memory.client.framebuffer.extent) ∨
      Halted fired ((decodeCursor .bits64 rect).run host.feed memory
        ⟨input, sent, fired, clock⟩) := by
  have supported := coherent.supported
  have size := product_exact rect.width rect.height supported.pixelBytes_le
  have pixelBound := Nat.mul_le_mul (Nat.mul_le_mul (UInt16.toNat_lt rect.width).le
    (UInt16.toNat_lt rect.height).le) supported.pixelBytes_le
  have maskBound : (rect.width.toNat + 7) / 8 * rect.height.toNat ≤ 2 ^ 13 * 2 ^ 16 :=
    Nat.mul_le_mul (by have := UInt16.toNat_lt rect.width; omega) (UInt16.toNat_lt rect.height).le
  have maskExact : WordSize.bits64.wrap ((rect.width.toNat + 7) / 8 * rect.height.toNat) =
      (rect.width.toNat + 7) / 8 * rect.height.toNat :=
    WordSize.wrap_of_lt (by simp only [WordSize.modulus]; omega)
  have total : WordSize.bits64.wrap (rect.width.toNat * rect.height.toNat *
      memory.client.framebuffer.format.pixelBytes +
        (rect.width.toNat + 7) / 8 * rect.height.toNat) =
      rect.width.toNat * rect.height.toNat * memory.client.framebuffer.format.pixelBytes +
        (rect.width.toNat + 7) / 8 * rect.height.toNat :=
    WordSize.wrap_of_lt (by simp only [WordSize.modulus]; omega)
  by_cases enough : rect.width.toNat * rect.height.toNat *
      memory.client.framebuffer.format.pixelBytes +
        (rect.width.toNat + 7) / 8 * rect.height.toNat ≤ input.length
  · obtain ⟨pixels, others, rfl, pixelCount⟩ := @exists_front _ input
      (rect.width.toNat * rect.height.toNat * memory.client.framebuffer.format.pixelBytes)
      (by omega)
    rw [List.length_append] at enough
    obtain ⟨bitmask, rest, rfl, maskCount⟩ := @exists_front _ others
      ((rect.width.toNat + 7) / 8 * rect.height.toNat) (by omega)
    exact .inl ⟨pixels, bitmask, rest, (List.append_assoc ..).symm, pixelCount, maskCount⟩
  · right
    simp only [decodeCursor, bind_eq]
    rw [run_load_then, ofInt_bytesPerPixel supported, size, maskExact, total, if_neg (by omega),
      run_malloc_then, run_failIf_then, if_neg (by decide),
      run_transportRecv_then host input sent fired clock attached, if_neg enough]
    exact ⟨.inl rfl, rfl⟩

/-- `ovnc__decode_rect` on any bytes: either they begin with the payload of an accepted
rectangle, or it halts. -/
theorem decodeRect_parses (attached : memory.client.transport = some transport)
    (coherent : memory.client.framebuffer.Coherent) (rect : Rect) (encodingType : EncodingType)
    (input : List UInt8) :
    (∃ (update : RectUpdate) (rest : List UInt8), update.rect = rect ∧
      update.encodingType = encodingType ∧ input = update.payload ++ rest ∧ update.Accepted
        memory.client.framebuffer.format.pixelBytes memory.client.framebuffer.extent) ∨
      Halted fired ((decodeRect .bits64 rect encodingType).run host.feed memory
        ⟨input, sent, fired, clock⟩) := by
  unfold decodeRect
  by_cases raw : encodingType = encodingRaw
  · rw [if_pos raw]
    refine (decodeRaw_parses host sent fired clock attached coherent rect input).imp_left ?_
    rintro ⟨pixels, rest, bytes, accepted⟩
    exact ⟨.raw rect pixels, rest, rfl, raw.symm, bytes, accepted⟩
  rw [if_neg raw]
  by_cases desktopSize : encodingType = encodingDesktopSize
  · exact .inl ⟨.desktopSize rect, input, rfl, desktopSize.symm, rfl, trivial⟩
  rw [if_neg desktopSize]
  by_cases cursor : encodingType = encodingCursor
  · rw [if_pos cursor]
    refine (decodeCursor_parses host sent fired clock attached coherent rect input).imp_left ?_
    rintro ⟨pixels, bitmask, rest, bytes, accepted⟩
    exact ⟨.cursor rect pixels bitmask, rest, rfl, cursor.symm, bytes, accepted⟩
  · rw [if_neg cursor]
    exact .inr ⟨.inr (.inr rfl), rfl⟩

/-- The header of a rectangle is determined by what is read from it. -/
theorem rectHeader_rebuilt {header : List UInt8} (size : header.length = 12) :
    writeU16 (readU16 header) ++ writeU16 (readU16 (header.drop 2)) ++
      writeU16 (readU16 (header.drop 4)) ++ writeU16 (readU16 (header.drop 6)) ++
      writeS32 (readS32 (header.drop 8)) = header := by
  rw [writeU16_readU16_take (by omega), writeU16_readU16_take (by rw [List.length_drop]; omega),
    writeU16_readU16_take (by rw [List.length_drop]; omega),
    writeU16_readU16_take (by rw [List.length_drop]; omega),
    writeS32_readS32_take (by rw [List.length_drop]; omega), ← List.take_add, ← List.take_add,
    ← List.take_add, ← List.take_add, List.take_of_length_le (by omega)]

/-- One pass of the rectangle loop decodes an accepted rectangle. -/
theorem handleRect_takes (attached : memory.client.transport = some transport)
    (coherent : memory.client.framebuffer.Coherent) {update : RectUpdate}
    (accepted : update.Accepted memory.client.framebuffer.format.pixelBytes
      memory.client.framebuffer.extent) (rest : List UInt8) :
    ∃ after later,
      (handleRect .bits64).run host.feed memory ⟨update.encode ++ rest, sent, fired, clock⟩ =
        (.returned (), memory.withFramebuffer after,
          ⟨rest, sent, fired ++ [update.callback].filter memory.client.callbacks.has, later⟩) ∧
      after.format = memory.client.framebuffer.format ∧
      after.extent = update.resize memory.client.framebuffer.extent ∧ after.Coherent := by
  obtain ⟨after, later, decoded, kept⟩ :=
    decodeRect_takes host attached coherent accepted rest sent fired clock
  obtain ⟨rectExact, encodingExact⟩ := rectHeader_decodes update
  have received := run_transportRecv host attached (show update.header.length = 12 from rfl)
    (update.payload ++ rest) sent fired clock
  refine ⟨after, later, ?_, kept⟩
  rw [handleRect, bind_eq, RectUpdate.encode, List.append_assoc, run_sequence_returned _ received,
    rectExact, encodingExact, decoded]

/-- One pass of the rectangle loop on any bytes. -/
theorem handleRect_parses (attached : memory.client.transport = some transport)
    (coherent : memory.client.framebuffer.Coherent) (input : List UInt8) :
    (∃ (update : RectUpdate) (rest : List UInt8), input = update.encode ++ rest ∧ update.Accepted
      memory.client.framebuffer.format.pixelBytes memory.client.framebuffer.extent) ∨
      Halted fired ((handleRect .bits64).run host.feed memory ⟨input, sent, fired, clock⟩) := by
  rw [handleRect, bind_eq, run_transportRecv_then host input sent fired clock attached]
  split
  · next enough =>
    refine (decodeRect_parses host sent fired clock attached coherent _ _ (input.drop 12)).imp_left
      ?_
    rintro ⟨update, rest, rect, encodingType, bytes, accepted⟩
    refine ⟨update, rest, ?_, accepted⟩
    have header : update.header = input.take 12 := by
      rw [RectUpdate.header, rect, encodingType]
      exact rectHeader_rebuilt (List.length_take_of_le enough)
    rw [RectUpdate.encode, header, List.append_assoc, ← bytes, List.take_append_drop]
  · exact .inr ⟨.inl rfl, rfl⟩

/-! ## The rectangles of an update -/

/-- The bytes begin with accepted rectangles, fewer than announced, and go on with none. -/
structure BrokenOff (bpp : Nat) (size : Extent) (announced : Nat) (updates : List RectUpdate)
    (bytes more : List UInt8) : Prop where
  fewer : updates.length < announced
  begins : bytes = updates.flatMap RectUpdate.encode ++ more
  accepted : RectUpdate.AllAccepted bpp size updates
  last : ∀ (update : RectUpdate) (rest : List UInt8), more = update.encode ++ rest →
    ¬ update.Accepted bpp (RectUpdate.resizeAll size updates)

/-- The rectangle loop decodes accepted rectangles, by induction on them. -/
theorem handleRects_takes (attached : memory.client.transport = some transport)
    (coherent : memory.client.framebuffer.Coherent) (updates : List RectUpdate)
    (accepted : RectUpdate.AllAccepted memory.client.framebuffer.format.pixelBytes
      memory.client.framebuffer.extent updates) (rest : List UInt8) :
    ∃ after pending later,
      (handleRects .bits64 updates.length).run host.feed memory
          ⟨updates.flatMap RectUpdate.encode ++ rest, sent, fired, clock⟩ =
        (.returned (), memory.showing after pending,
          ⟨rest, sent, fired ++ (updates.map RectUpdate.callback).filter
            memory.client.callbacks.has, later⟩) ∧
      after.format = memory.client.framebuffer.format ∧
      after.extent = RectUpdate.resizeAll memory.client.framebuffer.extent updates ∧
      after.Coherent := by
  induction updates generalizing memory fired clock with
  | nil =>
    refine ⟨memory.client.framebuffer, memory.pendingRects, clock, ?_, rfl, rfl, coherent⟩
    simp [handleRects, Memory.showing, Memory.withFramebuffer]
  | cons update updates inductionHypothesis =>
    obtain ⟨first, others⟩ := accepted
    let counting : Memory := { memory with pendingRects := updates.length }
    obtain ⟨between, middle, decoded, format, size, kept⟩ :=
      @handleRect_takes host counting transport sent fired clock attached coherent update first
        (updates.flatMap RectUpdate.encode ++ rest)
    obtain ⟨after, pending, later, handled, formatLater, sizeLater, coherentLater⟩ :=
      @inductionHypothesis (counting.withFramebuffer between)
        (fired ++ [update.callback].filter memory.client.callbacks.has) middle attached kept
        (by
          rw [show (counting.withFramebuffer between).client.framebuffer = between from rfl, format,
            size]
          exact others)
    refine ⟨after, pending, later, ?_, formatLater.trans format, ?_, coherentLater⟩
    · simp only [List.length_cons, handleRects, bind_eq, List.flatMap_cons, List.append_assoc]
      rw [run_update_then, run_sequence_returned _ decoded, handled,
        show (counting.withFramebuffer between).client.callbacks = memory.client.callbacks from rfl,
        List.append_assoc, ← List.filter_append]
      rfl
    · rw [sizeLater, show (counting.withFramebuffer between).client.framebuffer = between from rfl,
        size]
      rfl

/-- The rectangle loop on any bytes, by induction on the rectangles to come. A rectangle that
was accepted is decoded before the next one is looked at. -/
theorem handleRects_parses (attached : memory.client.transport = some transport)
    (coherent : memory.client.framebuffer.Coherent) (announced : Nat) (input : List UInt8) :
    (∃ updates rest, updates.length = announced ∧
      input = updates.flatMap RectUpdate.encode ++ rest ∧
      RectUpdate.AllAccepted memory.client.framebuffer.format.pixelBytes
        memory.client.framebuffer.extent updates) ∨
    ∃ updates more, BrokenOff memory.client.framebuffer.format.pixelBytes
        memory.client.framebuffer.extent announced updates input more ∧
      Halted (fired ++ (updates.map RectUpdate.callback).filter memory.client.callbacks.has)
        ((handleRects .bits64 announced).run host.feed memory ⟨input, sent, fired, clock⟩) := by
  induction announced generalizing memory input fired clock with
  | zero => exact .inl ⟨[], input, rfl, rfl, trivial⟩
  | succ announced inductionHypothesis =>
    let counting : Memory := { memory with pendingRects := announced }
    simp only [handleRects, bind_eq]
    rw [run_update_then]
    rcases @handleRect_parses host counting transport sent fired clock attached coherent input
      with ⟨update, rest, rfl, first⟩ | halted
    · obtain ⟨between, middle, decoded, format, size, kept⟩ :=
        @handleRect_takes host counting transport sent fired clock attached coherent update first
          rest
      have others := @inductionHypothesis (counting.withFramebuffer between)
        (fired ++ [update.callback].filter memory.client.callbacks.has) middle attached kept rest
      rw [show (counting.withFramebuffer between).client.framebuffer = between from rfl, format,
        size] at others
      rw [run_sequence_returned _ decoded]
      rcases others with ⟨updates, last, count, bytes, accepted⟩ | ⟨updates, more, broken, halted⟩
      · refine .inl ⟨update :: updates, last, congrArg Nat.succ count, ?_, first, accepted⟩
        rw [bytes, List.flatMap_cons, List.append_assoc]
      · refine .inr ⟨update :: updates, more, ⟨Nat.succ_lt_succ broken.fewer, ?_, ⟨first,
          broken.accepted⟩, broken.last⟩, ?_⟩
        · rw [broken.begins, List.flatMap_cons, List.append_assoc]
        · rw [List.append_assoc, show (counting.withFramebuffer between).client.callbacks =
            memory.client.callbacks from rfl, ← List.filter_append] at halted
          exact halted
    · refine .inr ⟨[], input, ⟨Nat.succ_pos announced, rfl, trivial, ?_⟩, ?_⟩
      · rintro update rest rfl accepted
        obtain ⟨after, later, decoded, -⟩ :=
          @handleRect_takes host counting transport sent fired clock attached coherent update
            accepted rest
        exact halted.unreturned () (congrArg Prod.fst decoded)
      · rw [show fired ++ (([] : List RectUpdate).map RectUpdate.callback).filter _ = fired from
          List.append_nil fired]
        exact halted.sequence _

/-! ## Messages -/

/-- A routine that consumes the encoding of a message, calls its callbacks and leaves a
coherent record of the size the message announces. -/
def TakesMessage (message : ServerMessage) (bytes : List UInt8) (routine : Routine Unit)
    (memory : Memory) : Prop :=
  ∀ rest sent fired clock, ∃ after pending later,
    routine.run host.feed memory ⟨bytes ++ rest, sent, fired, clock⟩ =
      (.returned (), memory.showing after pending,
        ⟨rest, sent, fired ++ message.callbacks.filter memory.client.callbacks.has, later⟩) ∧
    after.format = memory.client.framebuffer.format ∧
    after.extent = RectUpdate.resizeAll memory.client.framebuffer.extent message.rects ∧
    after.Coherent

/-- A routine that decodes a message takes its encoding. The picture is forgotten here as well. -/
theorem Decoded.takes {message : ServerMessage} {routine : Routine Unit} {bytes : List UInt8}
    (decoded : Decoded host message routine memory bytes) :
    TakesMessage host message bytes routine memory := by
  intro rest sent fired clock
  obtain ⟨after, pending, later, ran, shown, coherent⟩ := decoded rest sent fired clock
  exact ⟨after, pending, later, ran, shown.extent.1, shown.extent.2, coherent⟩

/-- What follows a header may look at a part of it only. -/
theorem TakesMessage.padded {message : ServerMessage} {header other bytes : List UInt8} {len : Nat}
    {following : List UInt8 → Routine Unit} (attached : memory.client.transport = some transport)
    (takes : TakesMessage host message (header ++ bytes) (sequence (transportRecv len) following)
      memory) (size : header.length = len) (length : other.length = len)
    (same : following other = following header) :
    TakesMessage host message (other ++ bytes) (sequence (transportRecv len) following) memory := by
  intro rest sent fired clock
  have taken := takes rest sent fired clock
  rw [List.append_assoc, run_sequence_returned _ (run_transportRecv host attached size ..)] at taken
  rw [List.append_assoc, run_sequence_returned _ (run_transportRecv host attached length ..), same]
  exact taken

/-- FramebufferUpdate. The header and rectangles that are all accepted are taken as a whole,
whatever the padding byte is. -/
theorem handleFbUpdate_takes (attached : memory.client.transport = some transport)
    (coherent : memory.client.framebuffer.Coherent) (rects : Counted (2 ^ 16) RectUpdate)
    (accepted : RectUpdate.AllAccepted memory.client.framebuffer.format.pixelBytes
      memory.client.framebuffer.extent rects.val) {padding : List UInt8}
    (size : padding.length = 1) :
    TakesMessage host (.framebufferUpdate rects) (padding ++
      writeU16 (UInt16.ofNat rects.val.length) ++ rects.val.flatMap RectUpdate.encode)
      (handleFbUpdate .bits64) memory := by
  intro rest sent fired clock
  obtain ⟨pad, rfl⟩ := List.length_eq_one_iff.mp size
  obtain ⟨after, pending, later, handled, kept⟩ :=
    handleRects_takes host sent fired clock attached coherent rects.val accepted rest
  have received := run_transportRecv host attached
    (show ([pad] ++ writeU16 (UInt16.ofNat rects.val.length)).length = 3 from rfl)
    (rects.val.flatMap RectUpdate.encode ++ rest) sent fired clock
  have count : readU16 (([pad] ++ writeU16 (UInt16.ofNat rects.val.length)).drop 1) =
      UInt16.ofNat rects.val.length := readU16_writeU16 _ []
  refine ⟨after, pending, later, ?_, kept⟩
  rw [handleFbUpdate, bind_eq, List.append_assoc _ _ rest, run_sequence_returned _ received, count,
    UInt16.toNat_ofNat_of_lt' rects.property, bind_eq, run_sequence_returned _ handled, run_fire]
  rw [Feed.notified, ServerMessage.callbacks, List.filter_append, ← List.append_assoc]
  rfl

/-- SetColorMapEntries. All colours of the header's count are taken, whatever the padding byte is.
-/
theorem handleColorMapEntries_takes (attached : memory.client.transport = some transport)
    (coherent : memory.client.framebuffer.Coherent) (firstColor : UInt16)
    (colors : Counted (2 ^ 16) Color) {padding : List UInt8} (size : padding.length = 1) :
    TakesMessage host (.setColorMapEntries firstColor colors) (padding ++ writeU16 firstColor ++
      writeU16 (UInt16.ofNat colors.val.length) ++ colors.val.flatMap Color.encode)
      handleColorMapEntries memory := by
  obtain ⟨pad, rfl⟩ := List.length_eq_one_iff.mp size
  exact (handleColorMapEntries_decoded host attached coherent firstColor colors).takes.padded host
    attached rfl rfl rfl

/-- ServerCutText. A text shorter than `2 ^ 32 - 1` is taken with its header, whatever the padding
bytes are. -/
theorem handleServerCutText_takes (attached : memory.client.transport = some transport)
    (coherent : memory.client.framebuffer.Coherent) (text : Counted (2 ^ 32 - 1) UInt8)
    {padding : List UInt8} (size : padding.length = 3) :
    TakesMessage host (.serverCutText text) (padding ++ writeU32 (UInt32.ofNat text.val.length) ++
      text.val) handleServerCutText memory := by
  obtain ⟨first, second, third, rfl⟩ := List.length_eq_three.mp size
  exact (handleServerCutText_decoded host attached coherent text).takes.padded host attached rfl
    rfl rfl

/-- The first byte of a message selects its handler. -/
theorem run_recvServerMessage (attached : memory.client.transport = some transport)
    (msgType : UInt8) (body : List UInt8) :
    (recvServerMessage .bits64).run host.feed memory ⟨[msgType] ++ body, sent, fired, clock⟩ =
      (if msgType = 0 then handleFbUpdate .bits64
        else if msgType = 1 then handleColorMapEntries
        else if msgType = 2 then handleBell
        else if msgType = 3 then handleServerCutText
        else fail .protocol).run host.feed memory ⟨body, sent, fired, clock⟩ := by
  rw [recvServerMessage, bind_eq, run_sequence_returned _ (run_transportRecv host attached
    (show [msgType].length = 1 from rfl) body sent fired clock)]
  rfl

/-- `ovnc__recv_server_message` takes every encoding of an accepted message. -/
theorem recvServerMessage_takes (attached : memory.client.transport = some transport)
    (coherent : memory.client.framebuffer.Coherent) {message : ServerMessage} {bytes : List UInt8}
    (encodes : message.Encodes bytes)
    (accepted : RectUpdate.AllAccepted memory.client.framebuffer.format.pixelBytes
      memory.client.framebuffer.extent message.rects) :
    TakesMessage host message bytes (recvServerMessage .bits64) memory := by
  intro rest sent fired clock
  have typed := run_recvServerMessage host sent fired clock attached
  cases encodes with
  | framebufferUpdate rects size =>
    rw [List.append_assoc, typed]
    exact handleFbUpdate_takes host attached coherent rects accepted size rest sent fired clock
  | setColorMapEntries firstColor colors size =>
    rw [List.append_assoc, typed]
    exact handleColorMapEntries_takes host attached coherent firstColor colors size rest sent fired
      clock
  | bell =>
    rw [typed]
    refine ⟨memory.client.framebuffer, memory.pendingRects, clock, ?_, rfl, rfl, coherent⟩
    exact run_fire host .bell _
  | serverCutText text size =>
    rw [List.append_assoc, typed]
    exact handleServerCutText_takes host attached coherent text size rest sent fired clock

/-- What the client reports of bytes that are no message: of an update the rectangles it
accepted, of anything else nothing. -/
inductive Begun (bpp : Nat) (size : Extent) : List UInt8 → List RectUpdate → Prop where
  | update {padding bytes more : List UInt8} {announced : UInt16} {updates : List RectUpdate}
      (padded : padding.length = 1)
      (brokenOff : BrokenOff bpp size announced.toNat updates bytes more) :
      Begun bpp size ([0] ++ (padding ++ writeU16 announced ++ bytes)) updates
  | other {input : List UInt8}
      (no_update : ∀ padding announced bytes, padding.length = 1 →
        input ≠ [0] ++ (padding ++ writeU16 announced ++ bytes)) : Begun bpp size input []

/-- A ServerCutText of the greatest length, whose storage has a size of zero. -/
def Overlong (input : List UInt8) : Prop :=
  ∃ padding text, padding.length = 3 ∧ input = [3] ++ (padding ++ writeU32 (-1) ++ text)

/-- Any input of `handle_fb_update` begins with an update whose rectangles are all accepted, or
else the routine halts after the callbacks of the rectangles it has begun with. -/
theorem handleFbUpdate_parses (attached : memory.client.transport = some transport)
    (coherent : memory.client.framebuffer.Coherent) (input : List UInt8) :
    (∃ rects padding rest, padding.length = 1 ∧ input = padding ++
      writeU16 (UInt16.ofNat (rects : Counted (2 ^ 16) RectUpdate).val.length) ++
        rects.val.flatMap RectUpdate.encode ++ rest ∧
      RectUpdate.AllAccepted memory.client.framebuffer.format.pixelBytes
        memory.client.framebuffer.extent rects.val) ∨
    ∃ updates, Begun memory.client.framebuffer.format.pixelBytes
        memory.client.framebuffer.extent ([0] ++ input) updates ∧
      Halted (fired ++ (updates.map RectUpdate.callback).filter memory.client.callbacks.has)
        ((handleFbUpdate .bits64).run host.feed memory ⟨input, sent, fired, clock⟩) := by
  by_cases enough : 3 ≤ input.length
  · obtain ⟨padding, others, rfl, size⟩ := @exists_front _ input 1 (by omega)
    rw [List.length_append] at enough
    obtain ⟨field, bytes, rfl, width⟩ := @exists_front _ others 2 (by omega)
    have count : writeU16 (readU16 field) = field := by
      rw [writeU16_readU16_take (Nat.le_of_eq width.symm), List.take_of_length_le (by omega)]
    have received := run_transportRecv host attached
      (show (padding ++ field).length = 3 by rw [List.length_append]; omega) bytes sent fired clock
    rw [← List.append_assoc, handleFbUpdate, bind_eq, run_sequence_returned _ received,
      List.drop_left' size, bind_eq]
    rcases handleRects_parses host sent fired clock attached coherent (readU16 field).toNat bytes
      with ⟨updates, rest, length, rfl, accepted⟩ | ⟨updates, more, brokenOff, halted⟩
    · have bounded : updates.length < 2 ^ 16 := by
        rw [length]
        exact UInt16.toNat_lt _
      refine .inl ⟨⟨updates, bounded⟩, padding, rest, size, ?_, accepted⟩
      rw [length, UInt16.ofNat_toNat, count, List.append_assoc _ _ rest]
    · refine .inr ⟨updates, ?_, halted.sequence _⟩
      rw [← count]
      exact .update size brokenOff
  · rw [handleFbUpdate, bind_eq, run_transportRecv_then host input sent fired clock attached,
      if_neg enough]
    refine .inr ⟨[], .other ?_, .inl rfl, (List.append_nil fired).symm⟩
    rintro padding announced bytes size same
    obtain rfl := List.append_cancel_left same
    simp only [List.length_append, writeU16_length] at enough
    omega

/-- Six bytes are an entry of the colour map. -/
theorem Color.encode_onto (bytes : List UInt8) (size : bytes.length = 6) :
    ∃ color : Color, color.encode = bytes := by
  refine ⟨⟨readU16 bytes, readU16 (bytes.drop 2), readU16 (bytes.drop 4)⟩, ?_⟩
  rw [Color.encode, writeU16_readU16_take (by omega),
    writeU16_readU16_take (by rw [List.length_drop]; omega),
    writeU16_readU16_take (by rw [List.length_drop]; omega), ← List.take_add, ← List.take_add,
    List.take_of_length_le (by omega)]

/-- Any input of `handle_color_map_entries` begins with a list of colours, or else the routine
halts on it without a callback. -/
theorem handleColorMapEntries_parses (attached : memory.client.transport = some transport)
    (input : List UInt8) :
    (∃ firstColor colors padding rest, padding.length = 1 ∧ input = padding ++
      writeU16 firstColor ++ writeU16 (UInt16.ofNat (colors : Counted (2 ^ 16) Color).val.length) ++
        colors.val.flatMap Color.encode ++ rest) ∨
    Halted fired (handleColorMapEntries.run host.feed memory ⟨input, sent, fired, clock⟩) := by
  by_cases enough : 5 ≤ input.length
  · obtain ⟨padding, others, rfl, size⟩ := @exists_front _ input 1 (by omega)
    rw [List.length_append] at enough
    obtain ⟨first, others, rfl, firstWidth⟩ := @exists_front _ others 2 (by omega)
    rw [List.length_append] at enough
    obtain ⟨number, data, rfl, numberWidth⟩ := @exists_front _ others 2 (by omega)
    have firstColor : writeU16 (readU16 first) = first := by
      rw [writeU16_readU16_take (Nat.le_of_eq firstWidth.symm), List.take_of_length_le (by omega)]
    have numColors : writeU16 (readU16 number) = number := by
      rw [writeU16_readU16_take (Nat.le_of_eq numberWidth.symm), List.take_of_length_le (by omega)]
    by_cases complete : (readU16 number).toNat * 6 ≤ data.length
    · obtain ⟨entries, rest, rfl, length⟩ := exists_front complete
      obtain ⟨colors, count, rfl⟩ := Codec.exists_flatMap Color.encode_onto _ _ length
      have bounded : colors.length < 2 ^ 16 := by
        rw [count]
        exact UInt16.toNat_lt _
      refine .inl ⟨readU16 first, ⟨colors, bounded⟩, padding, rest, size, ?_⟩
      rw [count, UInt16.ofNat_toNat, firstColor, numColors]
      simp only [List.append_assoc]
    · right
      have received := run_transportRecv host attached
        (show (padding ++ first ++ number).length = 5 by simp only [List.length_append]; omega) data
        sent fired clock
      have field : (padding ++ first ++ number).drop 3 = number :=
        List.drop_left' (by rw [List.length_append, size, firstWidth])
      rw [show padding ++ (first ++ (number ++ data)) = padding ++ first ++ number ++ data by
          simp only [List.append_assoc], handleColorMapEntries, bind_eq,
        run_sequence_returned _ received, field, bind_eq, run_malloc_then, bind_eq,
        run_failIf_then, if_neg (by decide), bind_eq,
        run_transportRecv_then host data sent fired clock attached, if_neg complete]
      exact ⟨.inl rfl, rfl⟩
  · right
    rw [handleColorMapEntries, bind_eq, run_transportRecv_then host input sent fired clock attached,
      if_neg enough]
    exact ⟨.inl rfl, rfl⟩

/-- The text decoder on any bytes. The greatest length is the one whose storage wraps to a
size of zero. -/
theorem handleServerCutText_parses (attached : memory.client.transport = some transport)
    (input : List UInt8) :
    (∃ text padding rest, padding.length = 3 ∧ input = padding ++
      writeU32 (UInt32.ofNat (text : Counted (2 ^ 32 - 1) UInt8).val.length) ++ text.val ++ rest) ∨
    Halted fired (handleServerCutText.run host.feed memory ⟨input, sent, fired, clock⟩) ∨
    Overlong ([3] ++ input) ∧ handleServerCutText.run host.feed memory
      ⟨input, sent, fired, clock⟩ = (.faulted (.outOfBounds .serverText), memory,
        ⟨input.drop 7, sent, fired, clock⟩) := by
  by_cases enough : 7 ≤ input.length
  · obtain ⟨padding, others, rfl, size⟩ := @exists_front _ input 3 (by omega)
    rw [List.length_append] at enough
    obtain ⟨field, bytes, rfl, width⟩ := @exists_front _ others 4 (by omega)
    have length : writeU32 (readU32 field) = field := by
      rw [writeU32_readU32_take (Nat.le_of_eq width.symm), List.take_of_length_le (by omega)]
    have header : (padding ++ field).length = 7 := by rw [List.length_append]; omega
    have received := run_transportRecv host attached header bytes sent fired clock
    by_cases complete : (readU32 field).toNat ≤ bytes.length ∧ (readU32 field).toNat < 2 ^ 32 - 1
    · obtain ⟨text, rest, rfl, count⟩ := exists_front complete.1
      have bounded : text.length < 2 ^ 32 - 1 := by
        rw [count]
        exact complete.2
      refine .inl ⟨⟨text, bounded⟩, padding, rest, size, ?_⟩
      rw [count, UInt32.ofNat_toNat, length]
      simp only [List.append_assoc]
    right
    rw [← List.append_assoc, handleServerCutText, bind_eq, run_sequence_returned _ received,
      List.drop_left' size]
    have something : 0 < readU32 field := by
      rw [UInt32.lt_iff_toNat_lt]
      by_contra nothing
      have : (readU32 field).toNat = 0 := by simpa using nothing
      omega
    rw [if_pos something, bind_eq, run_malloc_then, bind_eq, run_failIf_then, if_neg (by decide),
      bind_eq, run_faultIf_then]
    by_cases longest : (readU32 field).toNat < 2 ^ 32 - 1
    · have capacity : (readU32 field + 1).toNat = (readU32 field).toNat + 1 := by
        rw [UInt32.toNat_add]
        exact Nat.mod_eq_of_lt (Nat.add_lt_of_lt_sub longest)
      rw [if_neg (by omega), bind_eq, run_transportRecv_then host bytes sent fired clock attached,
        if_neg (fun arrived => complete ⟨arrived, longest⟩)]
      exact .inl ⟨.inl rfl, rfl⟩
    · have greatest : readU32 field = -1 := by
        apply UInt32.toNat_inj.mp
        have := UInt32.toNat_lt (readU32 field)
        rw [show (-1 : UInt32).toNat = 2 ^ 32 - 1 from rfl]
        omega
      rw [if_pos (by rw [greatest]; decide), List.drop_left' header]
      refine .inr ⟨⟨padding, bytes, size, ?_⟩, rfl⟩
      rw [← greatest, length]
  · right
    left
    rw [handleServerCutText, bind_eq, run_transportRecv_then host input sent fired clock attached,
      if_neg enough]
    exact ⟨.inl rfl, rfl⟩

/-- An accepted message is not brokenOff anywhere. -/
theorem recvServerMessage_unreturned (attached : memory.client.transport = some transport)
    (coherent : memory.client.framebuffer.Coherent) {input : List UInt8}
    (unreturned : ((recvServerMessage .bits64).run host.feed memory
      ⟨input, sent, fired, clock⟩).1 ≠ .returned ()) (message : ServerMessage)
    (bytes more : List UInt8) (encodes : message.Encodes bytes) (split : input = bytes ++ more) :
    ¬ RectUpdate.AllAccepted memory.client.framebuffer.format.pixelBytes
      memory.client.framebuffer.extent message.rects := by
  subst split
  intro accepted
  obtain ⟨after, pending, later, ran, -⟩ :=
    recvServerMessage_takes host attached coherent encodes accepted more sent fired clock
  exact unreturned (congrArg Prod.fst ran)

/-- `ovnc__recv_server_message` on any bytes: either they begin with an accepted message, or
it comes to no result and has reported what it accepted of an update. -/
theorem recvServerMessage_parses (attached : memory.client.transport = some transport)
    (coherent : memory.client.framebuffer.Coherent) (input : List UInt8) :
    (∃ (message : ServerMessage) (bytes rest : List UInt8), message.Encodes bytes ∧
      input = bytes ++ rest ∧ RectUpdate.AllAccepted
        memory.client.framebuffer.format.pixelBytes memory.client.framebuffer.extent
          message.rects) ∨
    (∃ updates, Begun memory.client.framebuffer.format.pixelBytes
        memory.client.framebuffer.extent input updates ∧
      Halted (fired ++ (updates.map RectUpdate.callback).filter memory.client.callbacks.has)
        ((recvServerMessage .bits64).run host.feed memory ⟨input, sent, fired, clock⟩)) ∨
    Overlong input ∧ ∃ unread, (recvServerMessage .bits64).run host.feed memory
      ⟨input, sent, fired, clock⟩ = (.faulted (.outOfBounds .serverText), memory,
        ⟨unread, sent, fired, clock⟩) := by
  have unreported : fired ++ (([] : List RectUpdate).map RectUpdate.callback).filter
      memory.client.callbacks.has = fired := List.append_nil fired
  -- Any other message begins with another type.
  have different (msgType : UInt8) (body : List UInt8) (other : msgType ≠ 0) :
      Begun memory.client.framebuffer.format.pixelBytes memory.client.framebuffer.extent
        ([msgType] ++ body) [] := by
    apply Begun.other
    intro padding announced bytes _ same
    exact other (List.cons.inj same).1
  cases input with
  | nil =>
    refine .inr (.inl ⟨[], .other (fun _ _ _ _ => by simp), ?_⟩)
    rw [recvServerMessage, bind_eq, run_transportRecv_then host [] sent fired clock attached,
      if_neg (by simp), unreported]
    exact ⟨.inl rfl, rfl⟩
  | cons msgType body =>
    have typed := run_recvServerMessage host sent fired clock attached msgType body
    rw [List.singleton_append] at typed
    rw [typed]
    by_cases update : msgType = 0
    · subst update
      rw [if_pos rfl]
      rcases handleFbUpdate_parses host sent fired clock attached coherent body with
        ⟨rects, padding, rest, size, rfl, accepted⟩ | ⟨updates, begun, halted⟩
      · exact .inl ⟨_, _, rest, .framebufferUpdate rects size, rfl, accepted⟩
      · exact .inr (.inl ⟨updates, begun, halted⟩)
    have nothing := different msgType body update
    rw [if_neg update]
    by_cases colorMap : msgType = 1
    · subst colorMap
      rw [if_pos rfl]
      rcases handleColorMapEntries_parses host sent fired clock attached body with
        ⟨firstColor, colors, padding, rest, size, rfl⟩ | halted
      · exact .inl ⟨_, _, rest, .setColorMapEntries firstColor colors size, rfl, trivial⟩
      · exact .inr (.inl ⟨[], nothing, unreported.symm ▸ halted⟩)
    rw [if_neg colorMap]
    by_cases bell : msgType = 2
    · subst bell
      exact .inl ⟨_, _, body, .bell, rfl, trivial⟩
    rw [if_neg bell]
    by_cases cutText : msgType = 3
    · subst cutText
      rw [if_pos rfl]
      rcases handleServerCutText_parses host sent fired clock attached body with
        ⟨text, padding, rest, size, rfl⟩ | halted | ⟨overlong, faulted⟩
      · exact .inl ⟨_, _, rest, .serverCutText text size, rfl, trivial⟩
      · exact .inr (.inl ⟨[], nothing, unreported.symm ▸ halted⟩)
      · exact .inr (.inr ⟨overlong, _, faulted⟩)
    · rw [if_neg cutText]
      exact .inr (.inl ⟨[], nothing, .inr (.inl rfl), unreported.symm⟩)

end Rectangles

end OpenVnc
