import OpenVnc.Process
import OpenVnc.Interaction.Monitors

/-!
# What announces an empty block

Which bytes a client waits for next follows from the bytes it has received and from what it
knew when they came. The monitor here keeps track of that and raises an alarm at an answer
after which the client has to allocate a block for nothing: a colour map without colours, a
framebuffer without pixels, a text so long that the size of its block wraps round. Sizes that
the source looks at before it allocates raise no alarm.
-/

namespace OpenVnc

open Interaction Interaction.Program

/-- An allocation of no byte. -/
def Request.Empty (request : Request) : Prop := request = .malloc 0 ∨ request = .calloc 0

/-- What a client waits for. -/
inductive Awaited where
  | version
  | security
  | types
  | securityResult
  | serverInit
  | name (left : Nat)
  | storage
  | greetings
  | message
  | update
  | rect (following : Nat)
  | row (rows following : Nat)
  | cursor (following : Nat)
  | colorHeader
  | colors
  | textHeader
  | text
  | newFormat (format : PixelFormat)
  | nothing

/-! ## Empty payloads -/

/-- Storage of the library's own for a framebuffer of this size has no byte. -/
def Client.StoresNothing (word : WordSize) (client : Client) (width height : UInt16)
    (bytesPerPixel : Int) : Prop :=
  client.callbacks.allocFramebuffer = false ∧
    word.product width.toNat height.toNat (word.ofInt bytesPerPixel) = 0

/-- The format in which the client will have its first framebuffer. -/
def Client.activeFormat (client : Client) : PixelFormat :=
  client.pixelFormat.getD client.connInfo.pixelFormat

/-- The first framebuffer has no byte. A format that the client does not know is refused
before it comes to that. -/
def Client.StartsEmpty (word : WordSize) (client : Client) : Prop :=
  0 ≤ client.activeFormat.bytesPerPixel ∧
    client.StoresNothing word client.connInfo.width client.connInfo.height
      client.activeFormat.bytesPerPixel

/-- The connection information with the fixed part of ServerInit. -/
def ConnectionInfo.started (info : ConnectionInfo) (header : List UInt8) : ConnectionInfo :=
  { info with
    width := readU16 header
    height := readU16 (header.drop 2)
    pixelFormat := PixelFormat.fromWire (header.drop 4)
    nameLength := readU32 (header.drop 20) }

/-- The size of a SetEncodings message, as it is computed, is zero. -/
def WordSize.EncodingsWrap (word : WordSize) (encodings : List EncodingType) : Prop :=
  word.wrap (4 + 4 * encodings.length) = 0

/-- The client has a list of encodings to send, with a size that wraps to zero. -/
def Client.GreetingWraps (word : WordSize) (client : Client) : Prop :=
  ∃ encodings ∈ client.encodings, encodings.length > 0 ∧ word.EncodingsWrap encodings

/-- A change to this format gives the framebuffer new storage, without a byte. -/
def Client.ReplacesByNothing (word : WordSize) (client : Client) (format : PixelFormat) : Prop :=
  format.bytesPerPixel ≠ client.framebuffer.format.bytesPerPixel ∧
    client.StoresNothing word client.framebuffer.width client.framebuffer.height
      format.bytesPerPixel

section Decidability

variable (word : WordSize) (client : Client)

/-- Whether a framebuffer would be stored in no bytes is decided by its size in `size_t`. -/
instance (width height : UInt16) (bytesPerPixel : Int) :
    Decidable (client.StoresNothing word width height bytesPerPixel) :=
  inferInstanceAs (Decidable (_ ∧ _))

/-- Whether the size that ServerInit has announced is empty can be decided from the record. -/
instance : Decidable (client.StartsEmpty word) := inferInstanceAs (Decidable (_ ∧ _))

/-- Whether the size of a list wraps can be decided by computing it. -/
instance (encodings : List EncodingType) : Decidable (word.EncodingsWrap encodings) :=
  inferInstanceAs (Decidable (_ = _))

/-- Whether the configured encodings wrap can be decided from the configuration. -/
instance : Decidable (client.GreetingWraps word) :=
  inferInstanceAs (Decidable (∃ encodings ∈ client.encodings, _ ∧ _))

/-- Whether a change of format replaces the pixels by nothing can be decided from the record. -/
instance (format : PixelFormat) : Decidable (client.ReplacesByNothing word format) :=
  inferInstanceAs (Decidable (_ ∧ _))

end Decidability

/-! ## The monitor -/

/-- The rectangle of a header. -/
def readRect (header : List UInt8) : Rect where
  x := readU16 header
  y := readU16 (header.drop 2)
  width := readU16 (header.drop 4)
  height := readU16 (header.drop 6)

/-- The number of bytes that a cursor has. -/
def cursorSize (word : WordSize) (client : Client) (rect : Rect) : Nat :=
  word.wrap (word.product rect.width.toNat rect.height.toNat
      (word.ofInt client.framebuffer.format.bytesPerPixel) +
    word.wrap ((rect.width.toNat + 7) / 8 * rect.height.toNat))

namespace Awaited

/-- With so many rectangles to come. -/
def rects : Nat → Awaited
  | 0 => message
  | following + 1 => rect following

/-- With so many rows of a rectangle to come. -/
def rowsOf (following : Nat) : Nat → Awaited
  | 0 => rects following
  | rows + 1 => row rows following

/-- With so many bytes of the name to come. -/
def nameOf : Nat → Awaited
  | 0 => storage
  | left + 1 => name (left + 1)

/-- After the header of a rectangle. -/
def payload (word : WordSize) (client : Client) (header : List UInt8) (following : Nat) :
    Awaited :=
  if readS32 (header.drop 8) = encodingRaw then
    rowsOf following (readRect header).height.toNat
  else if readS32 (header.drop 8) = encodingDesktopSize then rects following
  else if cursorSize word client (readRect header) = 0 then rects following
  else cursor following

/-- After the bytes that were awaited. -/
def received (word : WordSize) (client : Client) (bytes : List UInt8) : Awaited → Awaited
  | version => security
  | security =>
      if client.connInfo.rfbVersion = .v33 then
        if readU32 bytes = 1 then serverInit else nothing
      else if byteAt bytes 0 = 0 then nothing else types
  | types => if client.connInfo.rfbVersion = .v38 then securityResult else serverInit
  | securityResult => if readU32 bytes = 0 then serverInit else nothing
  | serverInit => nameOf (readU32 (bytes.drop 20)).toNat
  | name left => nameOf (left - bytes.length)
  | message =>
      if byteAt bytes 0 = 0 then update
      else if byteAt bytes 0 = 1 then colorHeader
      else if byteAt bytes 0 = 3 then textHeader
      else message
  | update => rects (readU16 (bytes.drop 1)).toNat
  | rect following => payload word client bytes following
  | row rows following => rowsOf following rows
  | cursor following => rects following
  | colorHeader => colors
  | textHeader => if readU32 (bytes.drop 3) = 0 then message else text
  | colors | text => message
  | other => other

section Received

variable (word : WordSize) (client : Client) (bytes : List UInt8)

/-- In version 3.3 the server decides, and behind its choice of None nothing but ServerInit is
awaited. Later versions send a count, and then the types. -/
theorem received_security : security.received word client bytes =
    if client.connInfo.rfbVersion = .v33 then
      if readU32 bytes = 1 then serverInit else nothing
    else if byteAt bytes 0 = 0 then nothing else types := rfl

/-- Version 3.8 has a result behind the choice of the client; the others go on with ServerInit. -/
theorem received_types : types.received word client bytes =
    if client.connInfo.rfbVersion = .v38 then securityResult else serverInit := rfl

/-- A result of zero is success. -/
theorem received_securityResult : securityResult.received word client bytes =
    if readU32 bytes = 0 then serverInit else nothing := rfl

/-- The byte of the type tells which message it is, and so what is received next. A bell ends with
it. -/
theorem received_message : message.received word client bytes =
    if byteAt bytes 0 = 0 then update
    else if byteAt bytes 0 = 1 then colorHeader
    else if byteAt bytes 0 = 3 then textHeader
    else message := rfl

/-- The header of a text tells its length. An empty text ends with its header. -/
theorem received_textHeader : textHeader.received word client bytes =
    if readU32 (bytes.drop 3) = 0 then message else text := rfl

/-- The header of a rectangle tells its encoding, and so what is received next. -/
theorem received_rect (following : Nat) : (rect following).received word client bytes =
    payload word client bytes following := rfl

end Received

/-- The bytes announce an empty block. -/
def Announces (word : WordSize) (client : Client) (bytes : List UInt8) : Awaited → Prop
  | serverInit => readU32 (bytes.drop 20) = 0 ∧
      { client with connInfo := client.connInfo.started bytes }.StartsEmpty word
  | name left => left ≤ bytes.length ∧ client.StartsEmpty word
  | rect _ => readS32 (bytes.drop 8) = encodingDesktopSize ∧
      client.StoresNothing word (readRect bytes).width (readRect bytes).height
        client.framebuffer.format.bytesPerPixel
  | colorHeader => readU16 (bytes.drop 3) = 0
  | textHeader => readU32 (bytes.drop 3) = 0xFFFFFFFF
  | _ => False

/-- After storage for the framebuffer has been obtained. -/
def stored : Awaited → Awaited
  | storage => greetings
  | other => other

/-- After something has been sent. -/
def sent : Awaited → Awaited
  | greetings | newFormat _ => nothing
  | other => other

/-- After an answer. -/
def next (word : WordSize) (awaited : Awaited) : Step → Awaited
  | ⟨memory, .recv _, .complete bytes⟩ => awaited.received word memory.client bytes
  | ⟨_, .calloc _, some _⟩ | ⟨_, .allocFramebuffer _, (none, _)⟩ => awaited.stored
  | ⟨_, .send _, .complete⟩ => awaited.sent
  | _ => awaited

/-- With storage and no format to send, a list of encodings that wraps is next. -/
def AnnouncesStored (word : WordSize) (client : Client) : Awaited → Prop
  | storage => client.pixelFormat = none ∧ client.GreetingWraps word
  | _ => False

/-- After a format it is next as well; or the format changes the framebuffer. -/
def AnnouncesSent (word : WordSize) (client : Client) : Awaited → Prop
  | greetings => client.pixelFormat.isSome ∧ client.GreetingWraps word
  | newFormat format => client.ReplacesByNothing word format
  | _ => False

/-- The answer announces an empty block. -/
def alarm (word : WordSize) (awaited : Awaited) : Step → Prop
  | ⟨memory, .recv _, .complete bytes⟩ => awaited.Announces word memory.client bytes
  | ⟨memory, .calloc _, some _⟩ | ⟨memory, .allocFramebuffer _, (none, _)⟩ =>
      awaited.AnnouncesStored word memory.client
  | ⟨memory, .send _, .complete⟩ => awaited.AnnouncesSent word memory.client
  | _ => False

/-- Storage for a change of size does not change what is awaited. -/
theorem rects_stored (following : Nat) : (rects following).stored = rects following := by
  cases following <;> rfl

section Decidability

variable (word : WordSize) (client : Client)

/-- Whether the bytes received announce an empty allocation can be decided in each state. -/
instance (bytes : List UInt8) :
    (awaited : Awaited) → Decidable (awaited.Announces word client bytes)
  | serverInit | name _ | rect _ => inferInstanceAs (Decidable (_ ∧ _))
  | colorHeader | textHeader => inferInstanceAs (Decidable (_ = _))
  | version | security | types | securityResult | storage | greetings | message | update
  | row .. | cursor _ | colors | text | newFormat _ | nothing => inferInstanceAs (Decidable False)

/-- Whether storage that was obtained announces one can be decided in each state. -/
instance : (awaited : Awaited) → Decidable (awaited.AnnouncesStored word client)
  | storage => inferInstanceAs (Decidable (_ ∧ _))
  | version | security | types | securityResult | serverInit | name _ | greetings | message
  | update | rect _ | row .. | cursor _ | colorHeader | colors | textHeader | text | newFormat _
  | nothing => inferInstanceAs (Decidable False)

/-- Whether a message that was sent announces one can be decided in each state. -/
instance : (awaited : Awaited) → Decidable (awaited.AnnouncesSent word client)
  | greetings => inferInstanceAs (Decidable (_ ∧ _))
  | newFormat format => inferInstanceAs (Decidable (client.ReplacesByNothing word format))
  | version | security | types | securityResult | serverInit | name _ | storage | message
  | update | rect _ | row .. | cursor _ | colorHeader | colors | textHeader | text | nothing =>
      inferInstanceAs (Decidable False)

/-- Whether there is an alarm can be decided of each event: only complete receives and sends and
storage that was obtained can raise one. -/
instance (awaited : Awaited) : (event : Step) → Decidable (awaited.alarm word event)
  | ⟨memory, .recv _, .complete bytes⟩ =>
      inferInstanceAs (Decidable (awaited.Announces word memory.client bytes))
  | ⟨memory, .calloc _, some _⟩ | ⟨memory, .allocFramebuffer _, (none, _)⟩ =>
      inferInstanceAs (Decidable (awaited.AnnouncesStored word memory.client))
  | ⟨memory, .send _, .complete⟩ =>
      inferInstanceAs (Decidable (awaited.AnnouncesSent word memory.client))
  | ⟨_, .recv _, .stopped ..⟩ | ⟨_, .calloc _, none⟩ | ⟨_, .allocFramebuffer _, (some _, _)⟩
  | ⟨_, .send _, .stopped ..⟩ | ⟨_, .malloc _, _⟩ | ⟨_, .free _, _⟩ | ⟨_, .callocTransport, _⟩
  | ⟨_, .socketConnect .., _⟩ | ⟨_, .socketClose _, _⟩ | ⟨_, .callback _, _⟩ =>
      inferInstanceAs (Decidable False)

end Decidability

end Awaited

/-- The monitor for empty blocks. -/
def announcements (word : WordSize) : Monitor Memory Request Answer Awaited where
  next := Awaited.next word
  alarm := Awaited.alarm word

/-- The alarm of the monitor can be decided, so a run can be checked for it. -/
instance (word : WordSize) (awaited : Awaited) (event : Step) :
    Decidable ((announcements word).alarm awaited event) :=
  inferInstanceAs (Decidable (awaited.alarm word event))

/-! ## Calls -/

/-- What a call waits for first. -/
def ApiCall.awaits : ApiCall → Awaited
  | .connect => .version
  | .processMessage | .run => .message
  | .setPixelFormat (some format) => .newFormat format
  | _ => .nothing

/-- A call that asks for an empty block whatever it is answered. -/
def ApiCall.Wraps (word : WordSize) (client : Client) : ApiCall → Prop
  | .setEncodings (some encodings) => client.state = .connected ∧ word.EncodingsWrap encodings
  | _ => False

/-- The events of a call announce an empty block. -/
def ApiCall.Announced (word : WordSize) (call : ApiCall) (memory : Memory) (events : List Step) :
    Prop :=
  call.Wraps word memory.client ∨ (announcements word).Alarmed call.awaits events

/-- Whether a call announces an empty allocation by itself can be decided from its list of
encodings. -/
instance (word : WordSize) (client : Client) :
    (call : ApiCall) → Decidable (call.Wraps word client)
  | .setEncodings (some _) => inferInstanceAs (Decidable (_ ∧ _))
  | .setEncodings none | .connect | .disconnect | .processMessage | .run | .requestUpdate ..
  | .sendKeyEvent .. | .sendPointerEvent .. | .sendCutText .. | .setPixelFormat _ =>
      inferInstanceAs (Decidable False)

/-- Whether a call has announced one can be decided from its events. -/
instance (word : WordSize) (call : ApiCall) (memory : Memory) (events : List Step) :
    Decidable (call.Announced word memory events) :=
  inferInstanceAs (Decidable (_ ∨ _))

end OpenVnc
