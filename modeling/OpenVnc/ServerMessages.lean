import OpenVnc.Coherence

/-!
# Server messages and what they mean

A reference for the messages a server sends, independent of the routines that
decode them: the messages as data, their encoding, the callbacks a client owes the
application for each, and what each does to the picture. A count or a length that
the wire holds in a field is bounded in the type, so every message can be encoded.
Whether a rectangle fits depends on the size of the framebuffer, which an earlier
rectangle of the same message may have changed.
-/

namespace OpenVnc

/-- A list whose length is below a bound, so that a field can hold it. -/
abbrev Counted (bound : Nat) (α : Type) := { items : List α // items.length < bound }

/-- One rectangle of a FramebufferUpdate. The position of a DesktopSize rectangle is
ignored, that of a Cursor rectangle is the hotspot. -/
inductive RectUpdate where
  | raw (rect : Rect) (pixels : List UInt8)
  | desktopSize (rect : Rect)
  | cursor (rect : Rect) (pixels bitmask : List UInt8)

/-- An entry of the colour map. -/
structure Color where
  red : UInt16
  green : UInt16
  blue : UInt16

/-- A message of the server. -/
inductive ServerMessage where
  | framebufferUpdate (rects : Counted (2 ^ 16) RectUpdate)
  | setColorMapEntries (firstColor : UInt16) (colors : Counted (2 ^ 16) Color)
  | bell
  | serverCutText (text : Counted (2 ^ 32 - 1) UInt8)

/-! ## Encoding -/

namespace RectUpdate

/-- The rectangle of an update, as its header has it. -/
def rect : RectUpdate → Rect
  | raw rect _ => rect
  | desktopSize rect => rect
  | cursor rect _ _ => rect

/-- The encoding number in an update's header. -/
def encodingType : RectUpdate → EncodingType
  | raw .. => 0
  | desktopSize .. => -223
  | cursor .. => -239

/-- What follows the header of the rectangle. -/
def payload : RectUpdate → List UInt8
  | raw _ pixels => pixels
  | desktopSize _ => []
  | cursor _ pixels bitmask => pixels ++ bitmask

/-- The twelve bytes of the header. -/
def header (update : RectUpdate) : List UInt8 :=
  writeU16 update.rect.x ++ writeU16 update.rect.y ++ writeU16 update.rect.width ++
    writeU16 update.rect.height ++ writeS32 update.encodingType

/-- A rectangle on the wire: its header and its payload. -/
def encode (update : RectUpdate) : List UInt8 := update.header ++ update.payload

end RectUpdate

/-- A colour on the wire: red, green and blue, each of two bytes. -/
def Color.encode (color : Color) : List UInt8 :=
  writeU16 color.red ++ writeU16 color.green ++ writeU16 color.blue

namespace ServerMessage

/-- The encoding of a message, with zeros for padding. -/
def encode : ServerMessage → List UInt8
  | framebufferUpdate rects =>
      [0] ++ [0] ++ writeU16 (UInt16.ofNat rects.val.length) ++ rects.val.flatMap RectUpdate.encode
  | setColorMapEntries firstColor colors =>
      [1] ++ [0] ++ writeU16 firstColor ++ writeU16 (UInt16.ofNat colors.val.length) ++
        colors.val.flatMap Color.encode
  | bell => [2]
  | serverCutText text =>
      [3] ++ [0, 0, 0] ++ writeU32 (UInt32.ofNat text.val.length) ++ text.val

end ServerMessage

/-! ## Well-formed messages -/

/-- The size of a framebuffer. -/
structure Extent where
  width : UInt16
  height : UInt16
deriving DecidableEq

/-- The size that the record of a framebuffer tells. -/
def Framebuffer.extent (framebuffer : Framebuffer) : Extent :=
  ⟨framebuffer.width, framebuffer.height⟩

namespace RectUpdate

/-- A Raw rectangle lies inside the framebuffer, and the payload has as many bytes as
the size of the rectangle says. -/
def WellFormed (bpp : Nat) (size : Extent) : RectUpdate → Prop
  | raw rect pixels =>
      rect.x.toNat + rect.width.toNat ≤ size.width.toNat ∧
        rect.y.toNat + rect.height.toNat ≤ size.height.toNat ∧
        pixels.length = rect.width.toNat * rect.height.toNat * bpp
  | desktopSize _ => True
  | cursor rect pixels bitmask =>
      pixels.length = rect.width.toNat * rect.height.toNat * bpp ∧
        bitmask.length = (rect.width.toNat + 7) / 8 * rect.height.toNat

/-- The size of the framebuffer after a rectangle. -/
def resize (size : Extent) : RectUpdate → Extent
  | desktopSize rect => ⟨rect.width, rect.height⟩
  | _ => size

/-- Each rectangle is well formed for the size the rectangles before it leave. -/
def AllWellFormed (bpp : Nat) : Extent → List RectUpdate → Prop
  | _, [] => True
  | size, update :: updates =>
      update.WellFormed bpp size ∧ AllWellFormed bpp (update.resize size) updates

/-- The size of the framebuffer after a list of rectangles. -/
def resizeAll (size : Extent) (updates : List RectUpdate) : Extent :=
  updates.foldl (fun size update => update.resize size) size

/-- The size that rectangles leave one after the other. -/
theorem resizeAll_append (size : Extent) (earlier later : List RectUpdate) :
    resizeAll size (earlier ++ later) = resizeAll (resizeAll size earlier) later :=
  List.foldl_append

/-- Rectangles in sequence: the later ones meet the size the earlier ones leave. -/
theorem allWellFormed_append (bpp : Nat) (size : Extent) (earlier later : List RectUpdate) :
    AllWellFormed bpp size (earlier ++ later) ↔
      AllWellFormed bpp size earlier ∧ AllWellFormed bpp (resizeAll size earlier) later := by
  induction earlier generalizing size with
  | nil => simp [AllWellFormed, resizeAll]
  | cons update updates inductionHypothesis =>
    rw [List.cons_append, AllWellFormed, AllWellFormed, inductionHypothesis, and_assoc]
    rfl

end RectUpdate

/-- The rectangles of a message. -/
def ServerMessage.rects : ServerMessage → List RectUpdate
  | framebufferUpdate rects => rects.val
  | _ => []

/-! ## Meaning -/

namespace RectUpdate

/-- The callback that reports a rectangle. A cursor without pixels is reported as
empty. -/
def callback : RectUpdate → Callback
  | raw rect _ => .framebufferUpdate rect
  | desktopSize rect => .desktopResize rect.width rect.height
  | cursor rect pixels bitmask =>
      if rect.width = 0 ∨ rect.height = 0 then .cursorUpdate rect.x rect.y 0 0 none none
      else .cursorUpdate rect.x rect.y rect.width rect.height (some pixels) (some bitmask)

/-- What a rectangle does to the picture. A byte of a pixel inside a Raw rectangle
becomes the rectangle's, every other pixel stays. After a DesktopSize rectangle the
picture has the new size, on storage of the application's allocator or all zero. -/
inductive Shows (allocator : Bool) (before : Framebuffer) : RectUpdate → Framebuffer → Prop where
  | raw {rect : Rect} {pixels : List UInt8} {after : Framebuffer}
      (same : after = { before with data := after.data })
      (drawn : ∀ x y byte, x < before.width.toNat → y < before.height.toNat →
        byte < before.format.pixelBytes →
        after.pixelByte x y byte =
          if rect.x.toNat ≤ x ∧ x < rect.x.toNat + rect.width.toNat ∧
              rect.y.toNat ≤ y ∧ y < rect.y.toNat + rect.height.toNat then
            pixels[((y - rect.y.toNat) * rect.width.toNat + (x - rect.x.toNat)) *
              before.format.pixelBytes + byte]?
          else before.pixelByte x y byte) :
      Shows allocator before (raw rect pixels) after
  | desktopSize {rect : Rect} {block : Block}
      (blank : allocator = false → ∀ byte ∈ block.bytes, byte = 0) :
      Shows allocator before (desktopSize rect) { before with
        width := rect.width
        height := rect.height
        dataSize := rect.width.toNat * rect.height.toNat * before.format.pixelBytes
        data := some block }
  | cursor {rect : Rect} {pixels bitmask : List UInt8} :
      Shows allocator before (cursor rect pixels bitmask) before

/-- What a list of rectangles does to the picture. -/
def ShowAll (allocator : Bool) : List RectUpdate → Framebuffer → Framebuffer → Prop
  | [], before, after => after = before
  | update :: updates, before, after => ∃ between,
      Shows allocator before update between ∧ ShowAll allocator updates between after

/-- A rectangle leaves the format alone and changes the size as announced. -/
theorem Shows.extent {allocator : Bool} {before after : Framebuffer} {update : RectUpdate}
    (shown : Shows allocator before update after) :
    after.format = before.format ∧ after.extent = update.resize before.extent := by
  cases shown with
  | raw same => rw [same]; exact ⟨rfl, rfl⟩
  | desktopSize => exact ⟨rfl, rfl⟩
  | cursor => exact ⟨rfl, rfl⟩

/-- Whatever an update shows, it leaves the format, and the size that its rectangles announce. -/
theorem ShowAll.extent {allocator : Bool} {before after : Framebuffer} {updates : List RectUpdate}
    (shown : ShowAll allocator updates before after) :
    after.format = before.format ∧ after.extent = resizeAll before.extent updates := by
  induction updates generalizing before with
  | nil =>
    rw [show after = before from shown]
    exact ⟨rfl, rfl⟩
  | cons update updates inductionHypothesis =>
    obtain ⟨between, first, others⟩ := shown
    obtain ⟨format, size⟩ := inductionHypothesis others
    rw [format, size, first.extent.1, first.extent.2]
    exact ⟨rfl, rfl⟩

/-- Rectangles in sequence. -/
theorem ShowAll.append {allocator : Bool} {before between after : Framebuffer}
    {earlier later : List RectUpdate} (first : ShowAll allocator earlier before between)
    (second : ShowAll allocator later between after) :
    ShowAll allocator (earlier ++ later) before after := by
  induction earlier generalizing before with
  | nil =>
    rw [show between = before from first] at second
    exact second
  | cons update updates inductionHypothesis =>
    obtain ⟨middle, shown, others⟩ := first
    exact ⟨middle, shown, inductionHypothesis others⟩

end RectUpdate

/-- The callbacks a message gives rise to, in order. -/
def ServerMessage.callbacks : ServerMessage → List Callback
  | framebufferUpdate rects =>
      rects.val.map RectUpdate.callback ++ [.framebufferUpdateFinished]
  | setColorMapEntries firstColor colors =>
      [.colorMapUpdate firstColor (UInt16.ofNat colors.val.length) (colors.val.map Color.red)
        (colors.val.map Color.green) (colors.val.map Color.blue)]
  | bell => [.bell]
  | serverCutText text =>
      [.serverCutText (text.val ++ [0]) (UInt32.ofNat text.val.length)]

end OpenVnc
