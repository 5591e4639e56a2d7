import OpenVnc.Encoding

/-!
# Server-to-client messages

The handlers of `ovnc_messages.c` for the four server messages and their
dispatcher. Buffers on the heap are requested first and filled afterwards.
-/

namespace OpenVnc

open Interaction Interaction.Program

/-- One pass of the rectangle loop of `handle_fb_update`: the header of a rectangle,
then the rectangle. -/
def handleRect (word : WordSize) : Routine Unit := do
  let rectHeader ← transportRecv 12
  let rect : Rect := {
    x := readU16 rectHeader
    y := readU16 (rectHeader.drop 2)
    width := readU16 (rectHeader.drop 4)
    height := readU16 (rectHeader.drop 6) }
  decodeRect word rect (readS32 (rectHeader.drop 8))

/-- The rectangle loop of `handle_fb_update`, with the number of rectangles left. The position
is kept in the memory, where invariants can see it. -/
def handleRects (word : WordSize) : Nat → Routine Unit
  | 0 => return ()
  | left + 1 => do
    update (fun memory => { memory with pendingRects := left })
    handleRect word
    handleRects word left

/-- `handle_fb_update`. The end of the update is reported also when it has no rectangles. -/
def handleFbUpdate (word : WordSize) : Routine Unit := do
  let header ← transportRecv 3
  handleRects word (readU16 (header.drop 1)).toNat
  fire .framebufferUpdateFinished

/-- The colours of a SetColorMapEntries payload: at index `i` the 16-bit value that
starts at byte `6 * i + channel`. -/
def colorChannel (data : List UInt8) (numColors channel : Nat) : List UInt16 :=
  (List.range numColors).map (fun i => readU16 (data.drop (i * 6 + channel)))

/-- `handle_color_map_entries`. The three channel arrays exist only for the callback. -/
def handleColorMapEntries : Routine Unit := do
  let header ← transportRecv 5
  let firstColor := readU16 (header.drop 1)
  let numColors := readU16 (header.drop 3)
  let dataLen := numColors.toNat * 6
  let allocated : Bool ← ask (Request.malloc dataLen)
  failIf (allocated = false) .nomem
  let data ← transportRecv dataLen
  let memory ← load
  onlyIf memory.client.callbacks.colorMapUpdate (do
    let red : Bool ← ask (Request.malloc (2 * numColors.toNat))
    let green : Bool ← ask (Request.malloc (2 * numColors.toNat))
    let blue : Bool ← ask (Request.malloc (2 * numColors.toNat))
    failIf (red = false ∨ green = false ∨ blue = false) .nomem
    fire (.colorMapUpdate firstColor numColors (colorChannel data numColors.toNat 0)
      (colorChannel data numColors.toNat 2) (colorChannel data numColors.toNat 4)))

/-- `handle_bell`. It has no payload. -/
def handleBell : Routine Unit := fire .bell

/-- `handle_server_cut_text`. The size `length + 1` is computed in 32 bits; the text
is received into that block and terminated by a zero byte stored at index `length`. -/
def handleServerCutText : Routine Unit := do
  let header ← transportRecv 7
  let length := readU32 (header.drop 3)
  if 0 < length then do
    let capacity := (length + 1).toNat
    let allocated : Bool ← ask (Request.malloc capacity)
    failIf (allocated = false) .nomem
    faultIf (capacity < length.toNat) (.outOfBounds .serverText)
    let text ← transportRecv length.toNat
    faultIf (capacity ≤ length.toNat) (.outOfBounds .serverText)
    fire (.serverCutText (text ++ [0]) length)
  else
    fire (.serverCutText [0] length)

/-- `ovnc__recv_server_message`. Any other type ends the connection, since the length of its
message is unknown. -/
def recvServerMessage (word : WordSize) : Routine Unit := do
  let msgType ← transportRecv 1
  if byteAt msgType 0 = 0 then handleFbUpdate word
  else if byteAt msgType 0 = 1 then handleColorMapEntries
  else if byteAt msgType 0 = 2 then handleBell
  else if byteAt msgType 0 = 3 then handleServerCutText
  else fail .protocol

end OpenVnc
