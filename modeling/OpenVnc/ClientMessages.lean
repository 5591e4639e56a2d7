import OpenVnc.SendMessages
import OpenVnc.Codec.Streams

/-!
# Client messages

A reference for the messages a client sends: the messages as data, their encoding, and
a parser of the grammar that a server would use. The parser reads big-endian numbers by
their positional value and insists on zeros where the grammar has padding.
-/

namespace OpenVnc

open Codec

/-- A message of the client. The text of a ClientCutText is given without a terminator. -/
inductive ClientMessage where
  | setPixelFormat (format : PixelFormat)
  | setEncodings (encodings : List EncodingType)
  | fbUpdateRequest (incremental : UInt8) (x y width height : UInt16)
  | keyEvent (key : UInt32) (down : UInt8)
  | pointerEvent (x y : UInt16) (buttonMask : UInt8)
  | clientCutText (text : List UInt8)
deriving DecidableEq

namespace ClientMessage

/-- The encoding of a message. The counts have the width of their fields. A message with a
longer list has an encoding that a peer will misread. -/
def encode : ClientMessage → List UInt8
  | setPixelFormat format => [0] ++ [0, 0, 0] ++ format.toWire
  | setEncodings encodings =>
      [2] ++ [0] ++ writeU16 (UInt16.ofNat encodings.length) ++ encodings.flatMap writeS32
  | fbUpdateRequest incremental x y width height =>
      [3] ++ [incremental] ++ writeU16 x ++ writeU16 y ++ writeU16 width ++ writeU16 height
  | keyEvent key down => [4] ++ [down] ++ [0, 0] ++ writeU32 key
  | pointerEvent x y buttonMask => [5] ++ [buttonMask] ++ writeU16 x ++ writeU16 y
  | clientCutText text => [6] ++ [0, 0, 0] ++ writeU32 (UInt32.ofNat text.length) ++ text

/-- The counts of a message fit their fields. The other messages have no count. -/
def Encodable : ClientMessage → Prop
  | setEncodings encodings => encodings.length < 2 ^ 16
  | clientCutText text => text.length < 2 ^ 32
  | _ => True

/-- Every message has at least the byte of its type. A stream of messages is therefore longer
than the list of them. -/
theorem encode_ne_nil (message : ClientMessage) : message.encode ≠ [] := by
  cases message <;> simp [encode]

end ClientMessage

/-- The messages a peer can be sent. A message with a longer list or text than its count
can tell has no encoding of which the end could be found. -/
abbrev WireMessage := { message : ClientMessage // message.Encodable }

/-- The encoding of a message that has one. The type carries the bounds, so that every encoding
can be read. -/
def WireMessage.encode (message : WireMessage) : List UInt8 := message.val.encode

/-! ## The grammar -/

/-- The value of a big-endian number. The empty list is zero. -/
def bigEndian (bytes : List UInt8) : Nat :=
  bytes.foldl (fun value byte => value * 256 + byte.toNat) 0

namespace Grammar

/-- A decoder of the client's bytes. The grammar below is written for a peer, and with nothing
of the library's own routines. -/
abbrev Parser (α : Type) := Decoder UInt8 α

/-- A number of the given width in bytes. The bytes may have any value. -/
def number (width : Nat) : Parser Nat := return bigEndian (← Decoder.take width)

/-- A number of one byte. -/
def u8 : Parser UInt8 := return UInt8.ofNat (← number 1)

/-- A number of two bytes, the more significant first. -/
def u16 : Parser UInt16 := return UInt16.ofNat (← number 2)

/-- A number of four bytes, the most significant first. -/
def u32 : Parser UInt32 := return UInt32.ofNat (← number 4)

/-- A signed number in two's complement. -/
def s32 : Parser Int32 := return Int32.ofNat (← number 4)

/-- Bytes without a meaning, which have to be zero. A message whose padding is not zero is none
of this grammar. -/
def padding (count : Nat) : Parser Unit := do
  let bytes ← Decoder.take count
  Decoder.require (bytes = List.replicate count 0)

/-- A pixel format: the bytes `ovnc__pixel_format_from_wire` looks at, then padding. The padding
has to be zero here, which the library ignores on receiving. -/
def pixelFormat : Parser PixelFormat := do
  let bytes ← Decoder.take 13
  padding 3
  return PixelFormat.fromWire bytes

/-- A message: its type, then the fields of the type. An unknown type has no message. -/
def clientMessage : Parser ClientMessage := do
  match (← number 1) with
  | 0 => do
    padding 3
    let format ← pixelFormat
    return .setPixelFormat format
  | 2 => do
    padding 1
    let count ← number 2
    let encodings ← Decoder.repeated s32 count
    return .setEncodings encodings
  | 3 => do
    let incremental ← u8
    let x ← u16
    let y ← u16
    let width ← u16
    let height ← u16
    return .fbUpdateRequest incremental x y width height
  | 4 => do
    let down ← u8
    padding 2
    let key ← u32
    return .keyEvent key down
  | 5 => do
    let buttonMask ← u8
    let x ← u16
    let y ← u16
    return .pointerEvent x y buttonMask
  | 6 => do
    padding 3
    let length ← number 4
    let text ← Decoder.take length
    return .clientCutText text
  | _ => failure

/-! ### Reading back what was written -/

/-- Bytes are read as the number they spell, whatever they are. No bound on the width is needed.
-/
theorem reads_number (bytes : List UInt8) :
    Reads (number bytes.length) bytes (bigEndian bytes) :=
  (Reads.take bytes).bind_pure bigEndian

/-- Two bytes that were written are read as the number that was written. -/
theorem bigEndian_writeU16 (val : UInt16) : bigEndian (writeU16 val) = val.toNat := by
  have bound := val.toNat_lt
  simp only [bigEndian, writeU16, List.foldl_cons, List.foldl_nil, UInt16.toNat_toUInt8,
    UInt16.toNat_shiftRight]
  simp [Nat.shiftRight_eq_div_pow]
  omega

/-- So are four bytes. -/
theorem bigEndian_writeU32 (val : UInt32) : bigEndian (writeU32 val) = val.toNat := by
  have bound := val.toNat_lt
  simp only [bigEndian, writeU32, List.foldl_cons, List.foldl_nil, UInt32.toNat_toUInt8,
    UInt32.toNat_shiftRight]
  simp [Nat.shiftRight_eq_div_pow]
  omega

/-- A byte is read as itself. -/
theorem reads_u8 (val : UInt8) : Reads u8 [val] val := by
  have value : UInt8.ofNat (bigEndian [val]) = val := by simp [bigEndian]
  have read := (reads_number [val]).bind_pure UInt8.ofNat
  rwa [value] at read

/-- A number of two bytes is read back. -/
theorem reads_u16 (val : UInt16) : Reads u16 (writeU16 val) val := by
  have value : UInt16.ofNat (bigEndian (writeU16 val)) = val := by simp [bigEndian_writeU16]
  have read := (reads_number (writeU16 val)).bind_pure UInt16.ofNat
  rwa [value] at read

/-- A number of four bytes is read back. -/
theorem reads_u32 (val : UInt32) : Reads u32 (writeU32 val) val := by
  have value : UInt32.ofNat (bigEndian (writeU32 val)) = val := by simp [bigEndian_writeU32]
  have read := (reads_number (writeU32 val)).bind_pure UInt32.ofNat
  rwa [value] at read

/-- A signed number of four bytes is read back. -/
theorem reads_s32 (val : Int32) : Reads s32 (writeS32 val) val := by
  have value : Int32.ofNat (bigEndian (writeS32 val)) = val := by
    rw [writeS32, bigEndian_writeU32]
    apply Int32.toBitVec_inj.mp
    simp
  have read := (reads_number (writeS32 val)).bind_pure Int32.ofNat
  rwa [value] at read

/-- Padding is read when it is zero, and only its length counts then. -/
theorem reads_padding (count : Nat) : Reads (padding count) (List.replicate count 0) () := by
  have taken : Reads (Decoder.take count) (List.replicate count (0 : UInt8)) _ :=
    List.length_replicate (n := count) (a := (0 : UInt8)) ▸ Reads.take _
  have read : Reads (padding count) (List.replicate count 0 ++ []) () := by
    apply taken.bind
    exact Reads.require rfl
  rwa [List.append_nil] at read

/-- The bytes of a pixel format without its padding. -/
def formatFields (format : PixelFormat) : List UInt8 :=
  [format.bitsPerPixel, format.depth, format.bigEndian, format.trueColor] ++
    writeU16 format.redMax ++ writeU16 format.greenMax ++ writeU16 format.blueMax ++
    [format.redShift, format.greenShift, format.blueShift]

/-- The pixel format on the wire is the format that was written, its flags included. -/
theorem fromWire_formatFields (format : PixelFormat) :
    PixelFormat.fromWire (formatFields format) = format := by
  have red : readU16 ((formatFields format).drop 4) = format.redMax := readU16_writeU16 _ _
  have green : readU16 ((formatFields format).drop 6) = format.greenMax := readU16_writeU16 _ _
  have blue : readU16 ((formatFields format).drop 8) = format.blueMax := readU16_writeU16 _ _
  unfold PixelFormat.fromWire
  rw [red, green, blue]
  rfl

/-- A format is read back field by field, and its padding is zero. -/
theorem reads_pixelFormat (format : PixelFormat) : Reads pixelFormat format.toWire format := by
  have read : Reads pixelFormat (formatFields format ++ List.replicate 3 0)
      (PixelFormat.fromWire (formatFields format)) := by
    apply (Reads.take (formatFields format)).bind
    exact (reads_padding 3).bind_pure _
  rwa [fromWire_formatFields] at read

/-- Every message whose counts fit is read back from its encoding. It is the round trip on which
the theorems about the bytes sent rest. -/
theorem reads_clientMessage {message : ClientMessage} (fits : message.Encodable) :
    Reads clientMessage message.encode message := by
  cases message with
  | setPixelFormat format =>
    have read : Reads clientMessage ([0] ++ (List.replicate 3 0 ++ format.toWire))
        (.setPixelFormat format) := by
      apply (reads_number [0]).bind
      apply (reads_padding 3).bind
      exact (reads_pixelFormat format).bind_pure _
    exact read
  | setEncodings encodings =>
    have count : bigEndian (writeU16 (UInt16.ofNat encodings.length)) = encodings.length := by
      rw [bigEndian_writeU16]
      exact UInt16.toNat_ofNat_of_lt' fits
    have read : Reads clientMessage ([2] ++ (List.replicate 1 0 ++
        (writeU16 (UInt16.ofNat encodings.length) ++ encodings.flatMap writeS32)))
        (.setEncodings encodings) := by
      apply (reads_number [2]).bind
      apply (reads_padding 1).bind
      apply (reads_number (writeU16 _)).bind
      rw [count]
      exact (Reads.repeated encodings (fun encoding _ => reads_s32 encoding)).bind_pure _
    exact read
  | fbUpdateRequest incremental x y width height =>
    have read : Reads clientMessage ([3] ++ ([incremental] ++ (writeU16 x ++ (writeU16 y ++
        (writeU16 width ++ writeU16 height)))))
        (.fbUpdateRequest incremental x y width height) := by
      apply (reads_number [3]).bind
      apply (reads_u8 incremental).bind
      apply (reads_u16 x).bind
      apply (reads_u16 y).bind
      apply (reads_u16 width).bind
      exact (reads_u16 height).bind_pure _
    exact read
  | keyEvent key down =>
    have read : Reads clientMessage ([4] ++ ([down] ++ (List.replicate 2 0 ++ writeU32 key)))
        (.keyEvent key down) := by
      apply (reads_number [4]).bind
      apply (reads_u8 down).bind
      apply (reads_padding 2).bind
      exact (reads_u32 key).bind_pure _
    exact read
  | pointerEvent x y buttonMask =>
    have read : Reads clientMessage ([5] ++ ([buttonMask] ++ (writeU16 x ++ writeU16 y)))
        (.pointerEvent x y buttonMask) := by
      apply (reads_number [5]).bind
      apply (reads_u8 buttonMask).bind
      apply (reads_u16 x).bind
      exact (reads_u16 y).bind_pure _
    exact read
  | clientCutText text =>
    have length : bigEndian (writeU32 (UInt32.ofNat text.length)) = text.length := by
      rw [bigEndian_writeU32]
      exact UInt32.toNat_ofNat_of_lt' fits
    have read : Reads clientMessage ([6] ++ (List.replicate 3 0 ++
        (writeU32 (UInt32.ofNat text.length) ++ text))) (.clientCutText text) := by
      apply (reads_number [6]).bind
      apply (reads_padding 3).bind
      apply (reads_number (writeU32 _)).bind
      rw [length]
      exact (Reads.take text).bind_pure _
    exact read

/-- Bytes that no messages begin with are not made good by complete messages before
them. -/
theorem unbroken_after {earlier later : List UInt8} (complete : Complete WireMessage.encode earlier)
    (unbroken : Unbroken WireMessage.encode (earlier ++ later)) :
    Unbroken WireMessage.encode later :=
  unbroken.after_complete (fun message => reads_clientMessage message.property)
    (fun message => message.val.encode_ne_nil) complete

/-! ### Messages that arrive in pieces -/

/-- A number needs a fixed count of bytes, so more input does not change it. A peer may decode
what has arrived so far. -/
theorem number_stable (width : Nat) : (number width).Stable :=
  (Decoder.Stable.take width).bind_pure bigEndian

/-- Neither does it change a byte. -/
theorem u8_stable : u8.Stable := (number_stable 1).bind_pure UInt8.ofNat

/-- Nor a number of two bytes. -/
theorem u16_stable : u16.Stable := (number_stable 2).bind_pure UInt16.ofNat

/-- Nor a number of four bytes. -/
theorem u32_stable : u32.Stable := (number_stable 4).bind_pure UInt32.ofNat

/-- Nor a signed number. -/
theorem s32_stable : s32.Stable := (number_stable 4).bind_pure Int32.ofNat

/-- Nor padding, which has to be zero as far as it goes. -/
theorem padding_stable (count : Nat) : (padding count).Stable :=
  (Decoder.Stable.take count).bind (fun _ => Decoder.Stable.require _)

/-- Nor a pixel format, which is made of these. -/
theorem pixelFormat_stable : pixelFormat.Stable := by
  apply (Decoder.Stable.take 13).bind
  intro bytes
  exact (padding_stable 3).bind_pure _

/-- A message that was decoded stays the same when more bytes arrive. Its parts are stable one
by one. -/
theorem clientMessage_stable : clientMessage.Stable := by
  apply (number_stable 1).bind
  intro kind
  split
  · apply (padding_stable 3).bind
    intro _
    exact pixelFormat_stable.bind_pure _
  · apply (padding_stable 1).bind
    intro _
    apply (number_stable 2).bind
    intro count
    exact (s32_stable.repeated count).bind_pure _
  · apply u8_stable.bind
    intro incremental
    apply u16_stable.bind
    intro x
    apply u16_stable.bind
    intro y
    apply u16_stable.bind
    intro width
    exact u16_stable.bind_pure _
  · apply u8_stable.bind
    intro down
    apply (padding_stable 2).bind
    intro _
    exact u32_stable.bind_pure _
  · apply u8_stable.bind
    intro buttonMask
    apply u16_stable.bind
    intro x
    exact u16_stable.bind_pure _
  · apply (padding_stable 3).bind
    intro _
    apply (number_stable 4).bind
    intro length
    exact (Decoder.Stable.take length).bind_pure _
  · exact Decoder.Stable.failure

end Grammar

end OpenVnc
