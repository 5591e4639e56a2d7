import OpenVnc.Endings
import OpenVnc.Properties.MessageDecoding

/-!
# Raw rectangles on any stream

A stream of bytes may be followed by anything and may end at any place. From whatever stream
and for every rectangle inside the framebuffer, Raw decoding consumes the bytes of the
rectangle and stores each of them at the place of its pixel. When the stream ends before that,
the bytes that were there are at their places and all others are as they were.
-/

namespace OpenVnc

open Interaction Interaction.Program

/-! ## Streams -/

/-- An environment whose received bytes form a stream, and that answers every request. A
receive gets its bytes as long as there are enough of them, otherwise those that are left and
then an end. Everything else is answered as the interface allows. -/
structure Streams {W : Type} (handler : Handler Request Answer W) (unread : W → List UInt8) :
    Prop where
  received : ∀ len world, len ≤ (unread world).length → ∃ later,
    handler (.recv len) world = (some (RecvAnswer.complete ((unread world).take len)), later) ∧
      unread later = (unread world).drop len
  ended : ∀ len world, (unread world).length < len → ∃ error later,
    handler (.recv len) world = (some (RecvAnswer.stopped (unread world) error), later) ∧
      (error = .io ∨ error = .connectionClosed) ∧ unread later = []
  others : ∀ request world, (∀ len, request ≠ .recv len) → ∃ answer later,
    handler request world = (some answer, later) ∧ Allowed request answer ∧
      unread later = unread world

/-- How a routine ends that needs so many bytes of the stream. -/
structure EndsOn (needed : Nat) (stream : List UInt8) (outcome : Outcome Error Fault Unit) :
    Prop where
  enough : needed ≤ stream.length → outcome = .returned ()
  short : stream.length < needed →
    ∃ error, outcome = .failed error ∧ (error = .io ∨ error = .connectionClosed)

/-- Storing nothing changes nothing. -/
theorem Framebuffer.stored_nil (framebuffer : Framebuffer) (offset : Nat) :
    framebuffer.stored offset [] = framebuffer := by
  have same : (fun block : Block => { block with bytes := overwrite block.bytes offset [] }) =
      id := by
    funext block
    simp [overwrite]
  rw [stored, same, Option.map_id, id]

/-- Rows for which there are no bytes are not painted. -/
theorem paintRows_nil (stride rowBytes rows start : Nat) (framebuffer : Framebuffer) :
    paintRows stride rowBytes rows start [] framebuffer = framebuffer := by
  induction rows generalizing start with
  | zero => rfl
  | succ rows inductionHypothesis =>
    rw [paintRows, List.take_nil, List.drop_nil, Framebuffer.stored_nil, inductionHypothesis]

namespace Streams

variable {W : Type} {handler : Handler Request Answer W} {unread : W → List UInt8}
  {memory : Memory} {transport : Transport}

/-- A receive into the framebuffer stores the bytes that it gets, all or not. -/
theorem run_transportRecvPixels (streams : Streams handler unread)
    (attached : memory.client.transport = some transport) {offset len : Nat}
    (room : offset + len ≤ memory.client.framebuffer.capacity) (world : W) :
    ∃ outcome later, (transportRecvPixels offset len).run handler memory world =
        (outcome, memory.stored offset ((unread world).take len), later) ∧
      unread later = (unread world).drop len ∧ EndsOn len (unread world) outcome := by
  unfold transportRecvPixels
  rw [bind_eq, run_sequence_returned _ (run_derefTransport attached _), bind_eq, run_load_then,
    bind_eq, run_faultIf_then, if_neg (Nat.not_lt.mpr room), bind_eq]
  by_cases enough : len ≤ (unread world).length
  · obtain ⟨later, answered, left⟩ := streams.received len world enough
    rw [run_ask_then _ _ _ answered]
    exact ⟨_, later, rfl, left, fun _ => rfl, fun short => absurd short (by omega)⟩
  · have short : (unread world).length < len := by omega
    obtain ⟨error, later, answered, ends, left⟩ := streams.ended len world short
    rw [run_ask_then _ _ _ answered, List.take_of_length_le (Nat.le_of_lt short),
      List.drop_of_length_le (Nat.le_of_lt short)]
    exact ⟨_, later, rfl, left, fun enough => absurd short (by omega), fun _ => ⟨error, rfl, ends⟩⟩

/-- Destroying the transport ends, reads nothing and leaves the framebuffer alone. -/
theorem run_transportDestroy (streams : Streams handler unread) (memory : Memory) (world : W) :
    ∃ final later, transportDestroy.run handler memory world = (.returned (), final, later) ∧
      final.client.framebuffer = memory.client.framebuffer ∧ unread later = unread world := by
  unfold transportDestroy
  rw [bind_eq, run_load_then]
  cases memory.client.transport with
  | none => exact ⟨memory, world, rfl, rfl, rfl⟩
  | some transport =>
    by_cases valid : transport.sock ≠ invalidSocket
    · obtain ⟨answer, later, closed, -, left⟩ :=
        streams.others (.socketClose transport.sock) world (fun _ => nofun)
      simp only [onlyIf, if_pos valid, bind_eq]
      rw [sequence_assoc, run_ask_then _ _ _ closed]
      exact ⟨_, later, rfl, rfl, left⟩
    · simp only [onlyIf, if_neg valid]
      exact ⟨_, world, rfl, rfl, rfl⟩

/-- So does disconnecting. -/
theorem run_clientDisconnect (streams : Streams handler unread) (memory : Memory) (world : W) :
    ∃ final later, clientDisconnect.run handler memory world = (.returned (), final, later) ∧
      final.client.framebuffer = memory.client.framebuffer ∧ unread later = unread world := by
  unfold clientDisconnect
  rw [bind_eq, run_load_then]
  by_cases connected : memory.client.state = .connected
  · obtain ⟨final, later, destroyed, same, left⟩ := streams.run_transportDestroy memory world
    simp only [onlyIf, connected, if_true, bind_eq]
    rw [run_sequence_returned _ destroyed]
    refine ⟨_, later, rfl, ?_, left⟩
    dsimp only
    split_ifs <;> exact same
  · simp only [onlyIf, connected, if_false]
    exact ⟨memory, world, rfl, rfl, rfl⟩

/-- So does a callback, whether the application disconnects or not. -/
theorem run_fire (streams : Streams handler unread) (call : Callback) (memory : Memory)
    (world : W) :
    ∃ final later, (fire call).run handler memory world = (.returned (), final, later) ∧
      final.client.framebuffer = memory.client.framebuffer ∧ unread later = unread world := by
  unfold fire
  rw [bind_eq, run_load_then]
  by_cases answered : memory.client.callbacks.has call
  · obtain ⟨disconnects, called, answer, -, left⟩ :=
      streams.others (.callback call) world (fun _ => nofun)
    simp only [onlyIf, answered, if_true, bind_eq]
    rw [run_ask_then _ _ _ answer]
    cases disconnects with
    | false => exact ⟨memory, called, rfl, rfl, left⟩
    | true =>
      obtain ⟨final, later, ended, same, unmoved⟩ := streams.run_clientDisconnect memory called
      exact ⟨final, later, ended, same, unmoved.trans left⟩
  · simp only [onlyIf, answered]
    exact ⟨memory, world, rfl, rfl, rfl⟩

/-- The row loop stores what the stream holds of its rows. A row that the stream does not hold
whole is the last one that is received. -/
theorem run_decodeRawRows (streams : Streams handler unread)
    (attached : memory.client.transport = some transport) (rect : Rect)
    {bpp rowBytes stride y rows : Nat} (small : bpp ≤ 4) (rowBound : rowBytes ≤ 2 ^ 18)
    (strideBound : stride ≤ 2 ^ 18) (below : y + rows < 2 ^ 16)
    (within : ∀ row < rows, (rect.y.toNat + y) * stride + rect.x.toNat * bpp + row * stride +
      rowBytes ≤ memory.client.framebuffer.dataSize)
    (stored : memory.client.framebuffer.dataSize ≤ memory.client.framebuffer.capacity)
    (world : W) :
    ∃ outcome later,
      (decodeRawRows .bits64 rect bpp rowBytes stride y rows).run handler memory world =
        (outcome, memory.withFramebuffer (paintRows stride rowBytes rows
          ((rect.y.toNat + y) * stride + rect.x.toNat * bpp)
          ((unread world).take (rows * rowBytes)) memory.client.framebuffer), later) ∧
      unread later = (unread world).drop (rows * rowBytes) ∧
      EndsOn (rows * rowBytes) (unread world) outcome := by
  induction rows generalizing memory y world with
  | zero =>
    refine ⟨_, world, rfl, by simp, fun _ => rfl, fun short => ?_⟩
    exact absurd short (by omega)
  | succ rows inductionHypothesis =>
    obtain ⟨offsetExact, endExact⟩ :=
      row_exact (y := y) rect small rowBound strideBound (by omega)
    have counted : (rows + 1) * rowBytes = rowBytes + rows * rowBytes := by ring
    have first : (rect.y.toNat + y) * stride + rect.x.toNat * bpp + rowBytes ≤
        memory.client.framebuffer.dataSize := by simpa using within 0 (by omega)
    have taken : ((unread world).take rowBytes).length ≤ rowBytes := List.length_take_le ..
    have fits : (rect.y.toNat + y) * stride + rect.x.toNat * bpp +
        ((unread world).take rowBytes).length ≤ memory.client.framebuffer.capacity := by omega
    have firstTaken : ((unread world).take ((rows + 1) * rowBytes)).take rowBytes =
        (unread world).take rowBytes := by
      rw [List.take_take, Nat.min_eq_left (by omega)]
    obtain ⟨outcome, later, received, left, ends⟩ :=
      streams.run_transportRecvPixels attached (Nat.le_trans first stored) world
    simp only [decodeRawRows, offsetExact, endExact]
    rw [bind_eq, run_load_then, bind_eq, run_failIf_then, if_neg (by omega), bind_eq, run_sequence,
      received, paintRows, firstTaken]
    by_cases enough : rowBytes ≤ (unread world).length
    · obtain rfl := ends.enough enough
      have kept := Framebuffer.stored_capacity fits
      have withinLeft : ∀ row < rows, (rect.y.toNat + (y + 1)) * stride + rect.x.toNat * bpp +
          row * stride + rowBytes ≤ memory.client.framebuffer.dataSize := by
        rw [nextRow]
        exact laterRows within
      obtain ⟨outcome, final, painted, drained, endsLater⟩ := @inductionHypothesis
        (memory.stored ((rect.y.toNat + y) * stride + rect.x.toNat * bpp)
          ((unread world).take rowBytes)) attached (y + 1) (by omega) withinLeft
        (Nat.le_trans stored (Nat.le_of_eq kept.symm)) later
      rw [left] at painted drained endsLater
      have others : ((unread world).take ((rows + 1) * rowBytes)).drop rowBytes =
          ((unread world).drop rowBytes).take (rows * rowBytes) := by
        rw [counted, List.drop_take, Nat.add_sub_cancel_left]
      rw [nextRow] at painted
      refine ⟨outcome, final, ?_, ?_, ?_, ?_⟩
      · rw [others]
        exact painted
      · rw [drained, List.drop_drop, counted]
      · intro all
        exact endsLater.enough (by rw [List.length_drop]; omega)
      · intro short
        exact endsLater.short (by rw [List.length_drop]; omega)
    · have short : (unread world).length < rowBytes := by omega
      obtain ⟨error, rfl, reason⟩ := ends.short short
      have nothing : ((unread world).take ((rows + 1) * rowBytes)).drop rowBytes = [] :=
        List.drop_of_length_le (by rw [List.length_take]; omega)
      refine ⟨_, later, ?_, ?_, fun enough => absurd short (by omega),
        fun _ => ⟨error, rfl, reason⟩⟩
      · rw [nothing, paintRows_nil]
        rfl
      · rw [left, List.drop_of_length_le (by omega), List.drop_of_length_le (by omega)]

end Streams

/-! ## The picture -/

/-- Where byte `k` of a pixel is, in column `i` and row `j` of a rectangle. -/
def Framebuffer.place (framebuffer : Framebuffer) (rect : Rect) (i j k : Nat) : Nat :=
  ((rect.y.toNat + j) * framebuffer.width.toNat + (rect.x.toNat + i)) *
    framebuffer.format.pixelBytes + k

/-- Where the same byte is in the stream. -/
def Framebuffer.position (framebuffer : Framebuffer) (rect : Rect) (i j k : Nat) : Nat :=
  (j * rect.width.toNat + i) * framebuffer.format.pixelBytes + k

/-- What a stream leaves of a framebuffer: the bytes of the rectangle that it holds are at
their places, and nothing else has changed. -/
structure PaintedBy (rect : Rect) (stream : List UInt8) (before after : Framebuffer) : Prop where
  record : after = { before with data := after.data }
  block : after.data.map Block.id = before.data.map Block.id
  capacity : after.capacity = before.capacity
  inside : ∀ i j k, i < rect.width.toNat → j < rect.height.toNat → k < before.format.pixelBytes →
    after.byte (before.place rect i j k) =
      if before.position rect i j k < stream.length then stream[before.position rect i j k]?
      else before.byte (before.place rect i j k)
  outside : ∀ index, (∀ i j k, i < rect.width.toNat → j < rect.height.toNat →
      k < before.format.pixelBytes → index ≠ before.place rect i j k) →
    after.byte index = before.byte index

/-- Painting keeps the block. -/
theorem paintRows_block (stride rowBytes rows start : Nat) (pixels : List UInt8)
    (framebuffer : Framebuffer) :
    (paintRows stride rowBytes rows start pixels framebuffer).data.map Block.id =
      framebuffer.data.map Block.id := by
  induction rows generalizing start pixels framebuffer with
  | zero => rfl
  | succ rows inductionHypothesis =>
    rw [paintRows, inductionHypothesis, Framebuffer.stored, Option.map_map]
    rfl

/-- A byte of the rectangle is one of the bytes the rectangle takes from the stream. -/
theorem position_lt {framebuffer : Framebuffer} {rect : Rect} {i j k : Nat}
    (column : i < rect.width.toNat) (row : j < rect.height.toNat)
    (inPixel : k < framebuffer.format.pixelBytes) :
    framebuffer.position rect i j k <
      rect.height.toNat * (rect.width.toNat * framebuffer.format.pixelBytes) := by
  have rowEnd := Nat.mul_le_mul_right framebuffer.format.pixelBytes
    (show i + 1 ≤ rect.width.toNat from column)
  have lines := Nat.mul_le_mul_right (rect.width.toNat * framebuffer.format.pixelBytes)
    (show j + 1 ≤ rect.height.toNat from row)
  rw [Nat.succ_mul] at rowEnd lines
  have place : framebuffer.position rect i j k =
      j * (rect.width.toNat * framebuffer.format.pixelBytes) +
        (i * framebuffer.format.pixelBytes + k) := by
    unfold Framebuffer.position
    ring
  omega

/-- The rows of a rectangle inside the framebuffer are its pixels: they paint each of them at
its place and reach no other. -/
theorem paintRows_painted {framebuffer : Framebuffer} (coherent : framebuffer.Coherent)
    {rect : Rect} (columns : rect.x.toNat + rect.width.toNat ≤ framebuffer.width.toNat)
    (rows : rect.y.toNat + rect.height.toNat ≤ framebuffer.height.toNat) (stream : List UInt8) :
    let bpp := framebuffer.format.pixelBytes
    PaintedBy rect stream framebuffer
      (paintRows (framebuffer.width.toNat * bpp) (rect.width.toNat * bpp) rect.height.toNat
        (rect.y.toNat * (framebuffer.width.toNat * bpp) + rect.x.toNat * bpp)
        (stream.take (rect.height.toNat * (rect.width.toNat * bpp))) framebuffer) := by
  intro bpp
  have size : (stream.take (rect.height.toNat * (rect.width.toNat * bpp))).length ≤
      rect.height.toNat * (rect.width.toNat * bpp) := List.length_take_le ..
  have narrow : rect.width.toNat * bpp ≤ framebuffer.width.toNat * bpp :=
    Nat.mul_le_mul_right bpp (by omega)
  have room : ∀ row < rect.height.toNat, rect.y.toNat * (framebuffer.width.toNat * bpp) +
      rect.x.toNat * bpp + row * (framebuffer.width.toNat * bpp) + rect.width.toNat * bpp ≤
      framebuffer.capacity :=
    fun row inside => Nat.le_trans (row_within coherent columns rows inside) coherent.stored
  refine ⟨paintRows_same .., paintRows_block .., paintRows_capacity size room, ?_, ?_⟩
  · intro i j k column row inPixel
    have offset : i * bpp + k < rect.width.toNat * bpp := by
      have rowEnd := Nat.mul_le_mul_right bpp (show i + 1 ≤ rect.width.toNat from column)
      rw [Nat.succ_mul] at rowEnd
      have : k < bpp := inPixel
      omega
    have place : framebuffer.place rect i j k = rect.y.toNat * (framebuffer.width.toNat * bpp) +
        rect.x.toNat * bpp + j * (framebuffer.width.toNat * bpp) + (i * bpp + k) := by
      unfold Framebuffer.place
      ring
    have position : framebuffer.position rect i j k =
        j * (rect.width.toNat * bpp) + (i * bpp + k) := by
      unfold Framebuffer.position
      ring
    have within : framebuffer.position rect i j k <
        rect.height.toNat * (rect.width.toNat * bpp) := position_lt column row inPixel
    rw [place, paintRows_inside size narrow room row offset, ← position,
      List.getElem?_take_of_lt within]
    exact if_congr (by rw [List.length_take]; omega) rfl rfl
  · intro index elsewhere
    apply paintRows_outside size room
    rintro row inside ⟨notBefore, before⟩
    obtain ⟨offset, rfl⟩ := Nat.exists_eq_add_of_le notBefore
    have positive : 0 < bpp := coherent.supported.pixelBytes_pos
    apply elsewhere (offset / bpp) row (offset % bpp) _ inside (Nat.mod_lt _ positive)
    · have split := Nat.div_add_mod' offset bpp
      unfold Framebuffer.place
      calc rect.y.toNat * (framebuffer.width.toNat * bpp) + rect.x.toNat * bpp +
            row * (framebuffer.width.toNat * bpp) + offset
          = rect.y.toNat * (framebuffer.width.toNat * bpp) + rect.x.toNat * bpp +
            row * (framebuffer.width.toNat * bpp) + (offset / bpp * bpp + offset % bpp) := by
              rw [split]
        _ = ((rect.y.toNat + row) * framebuffer.width.toNat + (rect.x.toNat + offset / bpp)) *
            bpp + offset % bpp := by ring
    · exact Nat.div_lt_of_lt_mul (by rw [Nat.mul_comm]; omega)

/-- Raw decoding of a rectangle inside the framebuffer, from any stream. It returns exactly
when the stream holds the bytes of the rectangle, it consumes these bytes or all there are, and
it paints them. -/
theorem decodeRaw_paints {W : Type} {handler : Handler Request Answer W}
    {unread : W → List UInt8} (streams : Streams handler unread) {memory : Memory}
    {transport : Transport} (attached : memory.client.transport = some transport)
    (coherent : memory.client.framebuffer.Coherent) {rect : Rect}
    (columns : rect.x.toNat + rect.width.toNat ≤ memory.client.framebuffer.width.toNat)
    (rows : rect.y.toNat + rect.height.toNat ≤ memory.client.framebuffer.height.toNat)
    (world : W) :
    ∃ outcome final later,
      (decodeRaw .bits64 rect).run handler memory world = (outcome, final, later) ∧
      EndsOn (rect.width.toNat * rect.height.toNat * memory.client.framebuffer.format.pixelBytes)
        (unread world) outcome ∧
      unread later = (unread world).drop
        (rect.width.toNat * rect.height.toNat * memory.client.framebuffer.format.pixelBytes) ∧
      PaintedBy rect (unread world) memory.client.framebuffer final.client.framebuffer := by
  have small := coherent.supported.pixelBytes_le
  obtain ⟨rowExact, rowBound⟩ := extent_exact rect.width small
  obtain ⟨strideExact, strideBound⟩ := extent_exact memory.client.framebuffer.width small
  have counted : rect.width.toNat * rect.height.toNat *
      memory.client.framebuffer.format.pixelBytes = rect.height.toNat *
      (rect.width.toNat * memory.client.framebuffer.format.pixelBytes) := by ring
  obtain ⟨outcome, later, painted, left, ends⟩ := @Streams.run_decodeRawRows _ _ _ _ _ streams
    attached rect _ _ _ 0 rect.height.toNat small rowBound strideBound
    (by have := UInt16.toNat_lt rect.height; omega)
    (fun row inside => row_within coherent columns rows inside) coherent.stored world
  have picture := paintRows_painted coherent columns rows (unread world)
  unfold decodeRaw
  simp only [bind_eq, run_load_then, ofInt_bytesPerPixel coherent.supported, rowExact, strideExact]
  rw [run_sequence, painted, counted]
  by_cases enough : rect.height.toNat *
      (rect.width.toNat * memory.client.framebuffer.format.pixelBytes) ≤ (unread world).length
  · obtain rfl := ends.enough enough
    obtain ⟨final, fired, returned, same, unmoved⟩ :=
      streams.run_fire (.framebufferUpdate rect) (memory.withFramebuffer _) later
    exact ⟨_, final, fired, returned, ends, unmoved.trans left, same ▸ picture⟩
  · obtain ⟨error, rfl, reason⟩ := ends.short (by omega)
    exact ⟨_, _, later, rfl, ends, left, picture⟩

/-! ## A column -/

/-- A host whose stream ends serves a stream. -/
theorem Host.ending_streams (host : Host) {error : Error}
    (ends : error = .io ∨ error = .connectionClosed) :
    Streams (host.ending error) Feed.unread where
  received len feed enough := ⟨_, if_pos enough, rfl⟩
  ended len feed short := ⟨error, _, if_neg (by omega), ends, rfl⟩
  others request feed unreceived := by
    cases request with
    | recv len => exact absurd rfl (unreceived len)
    | socketConnect => exact ⟨_, _, rfl, host.valid, rfl⟩
    | _ => exact ⟨_, _, rfl, trivial, rfl⟩

/-- A connected client with a picture of two by two pixels of one byte. -/
def blankSquare : Memory :=
  ⟨{ plainClient {} with
      state := .connected
      transport := some ⟨3⟩
      framebuffer := ⟨2, 2, { PixelFormat.initDefault with bitsPerPixel := 8 },
        some ⟨0, [0, 0, 0, 0]⟩, 4⟩ }, 1, 0⟩

/-- The example's record is coherent. -/
theorem blankSquare_coherent : blankSquare.client.framebuffer.Coherent :=
  ⟨.inl rfl, rfl, by decide⟩

/-- The right column is painted from the first two bytes; a stream of one byte paints the upper
pixel and fails. -/
theorem decodeRaw_paints_column :
    (∃ final later, (decodeRaw .bits64 ⟨1, 0, 1, 2⟩).run (plainHost.ending .io) blankSquare
        { unread := [5, 6, 7] } = (.returned (), final, later) ∧
      later.unread = [7] ∧ final.client.framebuffer.byte 1 = some 5 ∧
      final.client.framebuffer.byte 3 = some 6) ∧
    ∃ error final later, (decodeRaw .bits64 ⟨1, 0, 1, 2⟩).run (plainHost.ending .io) blankSquare
        { unread := [5] } = (.failed error, final, later) ∧
      later.unread = [] ∧ final.client.framebuffer.byte 1 = some 5 ∧
      final.client.framebuffer.byte 3 = some 0 := by
  constructor
  · obtain ⟨outcome, final, later, ran, ends, left, painted⟩ :=
      @decodeRaw_paints _ _ _ (plainHost.ending_streams (.inl rfl)) blankSquare ⟨3⟩ rfl
        blankSquare_coherent ⟨1, 0, 1, 2⟩ (by decide) (by decide) { unread := [5, 6, 7] }
    obtain rfl := ends.enough (by decide)
    exact ⟨final, later, ran, left, painted.inside 0 0 0 (by decide) (by decide) (by decide),
      painted.inside 0 1 0 (by decide) (by decide) (by decide)⟩
  · obtain ⟨outcome, final, later, ran, ends, left, painted⟩ :=
      @decodeRaw_paints _ _ _ (plainHost.ending_streams (.inl rfl)) blankSquare ⟨3⟩ rfl
        blankSquare_coherent ⟨1, 0, 1, 2⟩ (by decide) (by decide) { unread := [5] }
    obtain ⟨error, rfl, -⟩ := ends.short (by decide)
    exact ⟨error, final, later, ran, left,
      painted.inside 0 0 0 (by decide) (by decide) (by decide),
      painted.inside 0 1 0 (by decide) (by decide) (by decide)⟩

end OpenVnc
