import OpenVnc.Transport

/-!
# Rectangle decoding

`ovnc_enc_raw.c` and `ovnc_encoding.c`: the Raw encoding, the DesktopSize and
Cursor pseudo-encodings and their dispatcher. All size arithmetic is done in
`size_t`, whose width is a parameter.
-/

namespace OpenVnc

open Interaction Interaction.Program

/-- The loop of `ovnc__decode_raw` from row `y` on. Each row has its own bound check
and its own receive. -/
def decodeRawRows (word : WordSize) (rect : Rect) (bpp rowBytes fbStride : Nat) (y : Nat) :
    Nat → Routine Unit
  | 0 => return ()
  | rows + 1 => do
    let offset := word.wrap (word.wrap ((rect.y.toNat + y) * fbStride) +
      word.wrap (rect.x.toNat * bpp))
    let memory ← load
    failIf (word.wrap (offset + rowBytes) > memory.client.framebuffer.dataSize) .protocol
    transportRecvPixels offset rowBytes
    decodeRawRows word rect bpp rowBytes fbStride (y + 1) rows

/-- `ovnc__decode_raw`. All sizes are those of the format in use, and each row is received
straight into the framebuffer. -/
def decodeRaw (word : WordSize) (rect : Rect) : Routine Unit := do
  let memory ← load
  let framebuffer := memory.client.framebuffer
  let bpp := word.ofInt framebuffer.format.bytesPerPixel
  let rowBytes := word.wrap (rect.width.toNat * bpp)
  let fbStride := word.wrap (framebuffer.width.toNat * bpp)
  decodeRawRows word rect bpp rowBytes fbStride 0 rect.height.toNat
  fire (.framebufferUpdate rect)

/-- A product of three factors in `size_t`, multiplied from the left. Each product keeps what
fits, as in the source. -/
def WordSize.product (word : WordSize) (a b c : Nat) : Nat := word.wrap (word.wrap (a * b) * c)

/-- Free pixel storage; a null pointer needs no release. The request names the block by its
identity. -/
def freePixels (data : Option Block) : Routine Unit :=
  match data with
  | none => return ()
  | some block => do
    let _ ← ask (Request.free block.id)
    return ()

/-- `calloc(1, size)` for pixel storage. The block is zeroed, or there is none. -/
def callocPixels (size : Nat) : Routine (Option Block) := do
  let id : Option Nat ← ask (Request.calloc size)
  return id.map (fun id => ⟨id, List.replicate size 0⟩)

/-- A call of `alloc_framebuffer` on the client's framebuffer record. What it leaves in the
record is taken as it is, with its result. -/
def callAllocFramebuffer : Routine Unit := do
  let memory ← load
  let answer : Option Error × Framebuffer ←
    ask (Request.allocFramebuffer memory.client.framebuffer)
  modifyFramebuffer (fun _ => answer.2)
  match answer.1 with
  | none => return ()
  | some error => fail error

/-- `decode_desktop_size`. With the application's allocator the new size is recorded
before the call; without it, only after the new block has been obtained. -/
def decodeDesktopSize (word : WordSize) (rect : Rect) : Routine Unit := do
  let memory ← load
  let framebuffer := memory.client.framebuffer
  let bpp := word.ofInt framebuffer.format.bytesPerPixel
  let newSize := word.product rect.width.toNat rect.height.toNat bpp
  if memory.client.callbacks.allocFramebuffer then do
    modifyFramebuffer (fun framebuffer => { framebuffer with
      width := rect.width, height := rect.height, dataSize := newSize })
    callAllocFramebuffer
    fire (.desktopResize rect.width rect.height)
  else do
    let newData ← callocPixels newSize
    match newData with
    | none => fail .nomem
    | some block => do
      freePixels framebuffer.data
      modifyFramebuffer (fun framebuffer => { framebuffer with
        data := some block, width := rect.width, height := rect.height, dataSize := newSize })
      fire (.desktopResize rect.width rect.height)

/-- `decode_cursor`: the pixels, then one bit for each pixel with every row padded
to whole bytes. A cursor without any byte is reported as empty. -/
def decodeCursor (word : WordSize) (rect : Rect) : Routine Unit := do
  let memory ← load
  let bpp := word.ofInt memory.client.framebuffer.format.bytesPerPixel
  let pixelsSize := word.product rect.width.toNat rect.height.toNat bpp
  let maskRow := (rect.width.toNat + 7) / 8
  let maskSize := word.wrap (maskRow * rect.height.toNat)
  let total := word.wrap (pixelsSize + maskSize)
  if total = 0 then
    fire (.cursorUpdate rect.x rect.y 0 0 none none)
  else do
    let allocated : Bool ← ask (Request.malloc total)
    failIf (allocated = false) .nomem
    let buf ← transportRecv total
    fire (.cursorUpdate rect.x rect.y rect.width rect.height (some (buf.take pixelsSize))
      (some (buf.drop pixelsSize)))

/-- `ovnc__decode_rect`. The sizes and the cursor are announced as rectangles too, under numbers
of their own. -/
def decodeRect (word : WordSize) (rect : Rect) (encodingType : EncodingType) : Routine Unit :=
  if encodingType = encodingRaw then decodeRaw word rect
  else if encodingType = encodingDesktopSize then decodeDesktopSize word rect
  else if encodingType = encodingCursor then decodeCursor word rect
  else fail .encodingUnsupported

/-! ## Weakest preconditions of the allocation helpers -/

section Rules

variable {may : (request : Request) → Answer request → Prop} (memory : Memory)

/-- Releasing a block leaves the memory as it is. Waiting is a possible end of the request, as
of every one. -/
theorem wp_freePixels {data : Option Block}
    {post : List Step → Outcome Error Fault Unit → Memory → Prop}
    (waiting : post [] .waiting memory) (nothing : data = none → post [] (.returned ()) memory)
    (released : ∀ block : Block, data = some block →
      post [⟨memory, .free block.id, ()⟩] (.returned ()) memory) :
    (freePixels data).wp may post memory := by
  cases data with
  | none => exact nothing rfl
  | some block => exact ⟨waiting, fun _ _ => released block rfl⟩

/-- A fresh block is all zero. Its size is the one asked for. -/
theorem wp_callocPixels (size : Nat)
    (post : List Step → Outcome Error Fault (Option Block) → Memory → Prop) :
    (callocPixels size).wp may post memory ↔
      post [] .waiting memory ∧ ∀ id : Option Nat, may (.calloc size) id →
        post [⟨memory, .calloc size, id⟩]
          (.returned (id.map (fun id => ⟨id, List.replicate size 0⟩))) memory := Iff.rfl

/-- The application's allocator may leave any record behind. Its result is looked at afterwards.
-/
theorem wp_callAllocFramebuffer (post : List Step → Outcome Error Fault Unit → Memory → Prop) :
    callAllocFramebuffer.wp may post memory ↔
      post [] .waiting memory ∧ ∀ (error : Option Error) (left : Framebuffer),
        may (.allocFramebuffer memory.client.framebuffer) (error, left) →
        post [⟨memory, .allocFramebuffer memory.client.framebuffer, (error, left)⟩]
          (match error with
            | none => .returned ()
            | some error => .failed error)
          (memory.withFramebuffer left) := by
  unfold callAllocFramebuffer
  simp only [bind_eq, pure_eq, wp_sequence, wp_load, wp_ask, wp_modifyFramebuffer,
    continuing_returned, continuing_waiting, List.nil_append]
  refine and_congr Iff.rfl ⟨fun holds error left allowed => ?_, fun holds answer allowed => ?_⟩
  · have reached := holds (error, left) allowed
    cases error <;> exact reached
  · obtain ⟨error, left⟩ := answer
    have reached := holds error left allowed
    cases error <;> exact reached

end Rules

end OpenVnc
