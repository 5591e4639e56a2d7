import OpenVnc.Transport

/-!
# Client-to-server messages

The six senders of `ovnc_messages.c`. Five hand one buffer to the transport;
ClientCutText sends its header and its text separately. The count field of
SetEncodings has 16 bits and takes the low half of the number of encodings.
-/

namespace OpenVnc

open Interaction Interaction.Program

/-- `ovnc__send_set_pixel_format`: type 0, 20 bytes. It is one send. -/
def sendSetPixelFormat (fmt : PixelFormat) : Routine Unit :=
  transportSend ([0] ++ [0, 0, 0] ++ fmt.toWire)

/-- The buffer `ovnc__send_set_encodings` fills: type 2, 4 + 4n bytes. The number of encodings
is narrowed to 16 bits, and the entries are not. -/
def setEncodingsBuffer (encodings : List EncodingType) : List UInt8 :=
  [2] ++ [0] ++ writeU16 (UInt16.ofNat encodings.length) ++ encodings.flatMap writeS32

/-- `ovnc__send_set_encodings`. The size computation can wrap; filling a block that
came out too small would write past its end. -/
def sendSetEncodings (word : WordSize) (encodings : List EncodingType) : Routine Unit := do
  let msgLen := word.wrap (4 + 4 * encodings.length)
  let allocated : Bool ← ask (Request.malloc msgLen)
  failIf (allocated = false) .nomem
  faultIf (msgLen < 4 + 4 * encodings.length) (.outOfBounds .message)
  transportSend (setEncodingsBuffer encodings)

/-- `ovnc__send_fb_update_request`: type 3, 10 bytes. The fields are sent in the order of the
arguments. -/
def sendFbUpdateRequest (incremental : UInt8) (x y width height : UInt16) : Routine Unit :=
  transportSend ([3] ++ [incremental] ++ writeU16 x ++ writeU16 y ++ writeU16 width ++
    writeU16 height)

/-- `ovnc__send_key_event`: type 4, 8 bytes. The flag comes before the key. -/
def sendKeyEvent (key : UInt32) (down : UInt8) : Routine Unit :=
  transportSend ([4] ++ [down] ++ [0, 0] ++ writeU32 key)

/-- `ovnc__send_pointer_event`: type 5, 6 bytes. The buttons come before the position. -/
def sendPointerEvent (x y : UInt16) (buttonMask : UInt8) : Routine Unit :=
  transportSend ([5] ++ [buttonMask] ++ writeU16 x ++ writeU16 y)

/-- `ovnc__send_client_cut_text`: type 6, an 8-byte header, then the text in a send
of its own. Reading more text than the caller's array holds is a fault. -/
def sendClientCutText (text : List UInt8) (length : UInt32) : Routine Unit := do
  transportSend ([6] ++ [0, 0, 0] ++ writeU32 length)
  onlyIf (0 < length) (do
    faultIf (text.length < length.toNat) (.outOfBounds .clientText)
    transportSend (text.take length.toNat))

end OpenVnc
