import OpenVnc.Client
import OpenVnc.Process
import OpenVnc.Interaction.Cleanups

/-!
# The library with the storage it manages

The routines of the library once more, this time with every block of the heap they obtain, use
and release. A block is known by the pointer that owns it: a field of the client record or a
variable of the function that asked for it. No routine copies such a pointer to one that
outlives it, so that a block is released through the pointer that obtained it. Releasing is
what C does with the pointer's value: a null pointer is given to `free` without effect, and
where the source relies on that, the model releases under a condition.

Pixel storage, which changes hands between the library and the application, is asked for as
elsewhere. Everything that involves no block but the client's own is taken over by `plain`.
-/

namespace OpenVnc

open Interaction Interaction.Program

namespace Heap

/-- The pointers that own a block: those of the client record, and the variables of the
functions named with them. -/
inductive Pointer where
  | client | host | pixelFormat | encodings | transport
  /-- In `read_failure_reason`. -/
  | tmp
  /-- In `negotiate_security`. -/
  | types
  /-- `buf` in `decode_cursor`. -/
  | cursorBuf
  /-- `buf` in `ovnc__send_set_encodings`. -/
  | messageBuf
  /-- In `handle_color_map_entries`. -/
  | data | red | green | blue
  /-- In `handle_server_cut_text`. -/
  | text
deriving DecidableEq, Repr

/-- What a routine asks for when it manages storage: a record or a buffer for a pointer, the
release of a pointer's block, a transfer into or out of one, and the requests that involve no
block. -/
inductive Operation where
  | asked (request : Request)
  | object (pointer : Pointer)
  | buffer (pointer : Pointer) (size : Nat)
  | release (pointer : Pointer)
  | recvInto (pointer : Pointer) (len : Nat)
  | sendFrom (pointer : Pointer) (data : List UInt8)

/-- The type of the answers. An allocation answers whether it succeeded. -/
abbrev Reply : Operation → Type
  | .asked request => Answer request
  | .object _ | .buffer .. => Bool
  | .release _ => Unit
  | .recvInto .. => RecvAnswer
  | .sendFrom .. => SendAnswer

/-- A routine that manages its storage. -/
abbrev Managed (α : Type) := Program Memory Error Fault Operation Reply α

/-- A routine that involves no block. -/
def plain {α : Type} (routine : Routine α) : Managed α :=
  translate (fun request => ask (Operation.asked request)) routine

/-- `free` of a pointer that is not null. -/
def release {S E F : Type} (pointer : Pointer) : Program S E F Operation Reply Unit :=
  ask (Operation.release pointer)

/-- `ovnc__transport_recv` into the block of a pointer. -/
def recvInto (pointer : Pointer) (len : Nat) : Managed (List UInt8) := do
  let _ ← plain derefTransport
  let answer : RecvAnswer ← ask (Operation.recvInto pointer len)
  match answer with
  | .complete bytes => return bytes
  | .stopped _ error => fail error

/-- `ovnc__transport_send` of the block of a pointer. -/
def sendFrom (pointer : Pointer) (data : List UInt8) : Managed Unit := do
  let _ ← plain derefTransport
  let answer : SendAnswer ← ask (Operation.sendFrom pointer data)
  match answer with
  | .complete => return ()
  | .stopped _ error => fail error

/-- `ovnc__transport_create`, storing the new transport in the client. -/
def transportCreate : Managed Unit := do
  let allocated : Bool ← ask (Operation.object .transport)
  failIf (allocated = false) .nomem
  plain (modifyClient (fun client => { client with transport := some ⟨invalidSocket⟩ }))

/-- `ovnc__transport_destroy` of the client's transport, and the assignment of NULL. -/
def transportDestroy : Managed Unit := do
  let memory ← load
  match memory.client.transport with
  | none => return ()
  | some transport => do
    onlyIf (transport.sock ≠ invalidSocket) (do
      let _ ← ask (Operation.asked (.socketClose transport.sock))
      return ())
    release .transport
    plain (modifyClient (fun client => { client with transport := none }))

/-- `ovnc_client_disconnect`. -/
def clientDisconnect : Managed Unit := do
  let memory ← load
  onlyIf (memory.client.state = .connected) (do
    transportDestroy
    plain (modifyClient (fun client => { client with state := .disconnected }))
    plain platformCleanup)

/-- Call a callback if it is set. The application may disconnect the client before
it returns. -/
def fire (call : Callback) : Managed Unit := do
  let memory ← load
  onlyIf (memory.client.callbacks.has call) (do
    let disconnects : Bool ← ask (Operation.asked (.callback call))
    onlyIf disconnects clientDisconnect)

/-! ## Messages from the server -/

/-- `ovnc__decode_raw`. -/
def decodeRaw (word : WordSize) (rect : Rect) : Managed Unit := do
  let memory ← load
  let framebuffer := memory.client.framebuffer
  let bpp := word.ofInt framebuffer.format.bytesPerPixel
  let rowBytes := word.wrap (rect.width.toNat * bpp)
  let fbStride := word.wrap (framebuffer.width.toNat * bpp)
  plain (decodeRawRows word rect bpp rowBytes fbStride 0 rect.height.toNat)
  fire (.framebufferUpdate rect)

/-- `decode_desktop_size`. -/
def decodeDesktopSize (word : WordSize) (rect : Rect) : Managed Unit := do
  let memory ← load
  let framebuffer := memory.client.framebuffer
  let bpp := word.ofInt framebuffer.format.bytesPerPixel
  let newSize := word.product rect.width.toNat rect.height.toNat bpp
  if memory.client.callbacks.allocFramebuffer then do
    plain (modifyFramebuffer (fun framebuffer => { framebuffer with
      width := rect.width, height := rect.height, dataSize := newSize }))
    plain callAllocFramebuffer
    fire (.desktopResize rect.width rect.height)
  else do
    let newData ← plain (callocPixels newSize)
    match newData with
    | none => fail .nomem
    | some block => do
      plain (freePixels framebuffer.data)
      plain (modifyFramebuffer (fun framebuffer => { framebuffer with
        data := some block, width := rect.width, height := rect.height, dataSize := newSize }))
      fire (.desktopResize rect.width rect.height)

/-- `decode_cursor`. -/
def decodeCursor (word : WordSize) (rect : Rect) : Managed Unit := do
  let memory ← load
  let bpp := word.ofInt memory.client.framebuffer.format.bytesPerPixel
  let pixelsSize := word.product rect.width.toNat rect.height.toNat bpp
  let maskRow := (rect.width.toNat + 7) / 8
  let maskSize := word.wrap (maskRow * rect.height.toNat)
  let total := word.wrap (pixelsSize + maskSize)
  if total = 0 then
    fire (.cursorUpdate rect.x rect.y 0 0 none none)
  else do
    let allocated : Bool ← ask (Operation.buffer .cursorBuf total)
    failIf (allocated = false) .nomem
    settle (recvInto .cursorBuf total)
      (fun error => do
        release .cursorBuf
        fail error)
      (fun buf => do
        fire (.cursorUpdate rect.x rect.y rect.width rect.height (some (buf.take pixelsSize))
          (some (buf.drop pixelsSize)))
        release .cursorBuf)

/-- `ovnc__decode_rect`. -/
def decodeRect (word : WordSize) (rect : Rect) (encodingType : EncodingType) : Managed Unit :=
  if encodingType = encodingRaw then decodeRaw word rect
  else if encodingType = encodingDesktopSize then decodeDesktopSize word rect
  else if encodingType = encodingCursor then decodeCursor word rect
  else fail .encodingUnsupported

/-- One pass of the rectangle loop of `handle_fb_update`. -/
def handleRect (word : WordSize) : Managed Unit := do
  let rectHeader ← plain (transportRecv 12)
  let rect : Rect := {
    x := readU16 rectHeader
    y := readU16 (rectHeader.drop 2)
    width := readU16 (rectHeader.drop 4)
    height := readU16 (rectHeader.drop 6) }
  decodeRect word rect (readS32 (rectHeader.drop 8))

/-- The rectangle loop of `handle_fb_update`, with the number of rectangles left. -/
def handleRects (word : WordSize) : Nat → Managed Unit
  | 0 => return ()
  | left + 1 => do
    update (fun memory => { memory with pendingRects := left })
    handleRect word
    handleRects word left

/-- `handle_fb_update`. -/
def handleFbUpdate (word : WordSize) : Managed Unit := do
  let header ← plain (transportRecv 3)
  handleRects word (readU16 (header.drop 1)).toNat
  fire .framebufferUpdateFinished

/-- The part of `handle_color_map_entries` after the three arrays have been asked for: they are
handed to the callback, or those that could be obtained are released. -/
def deliverColors (call : Callback) (red green blue : Bool) : Managed Unit :=
  if red = false ∨ green = false ∨ blue = false then do
    onlyIf red (release .red)
    onlyIf green (release .green)
    onlyIf blue (release .blue)
    release .data
    fail .nomem
  else do
    fire call
    release .red
    release .green
    release .blue

/-- `handle_color_map_entries`. -/
def handleColorMapEntries : Managed Unit := do
  let header ← plain (transportRecv 5)
  let firstColor := readU16 (header.drop 1)
  let numColors := readU16 (header.drop 3)
  let dataLen := numColors.toNat * 6
  let allocated : Bool ← ask (Operation.buffer .data dataLen)
  failIf (allocated = false) .nomem
  settle (recvInto .data dataLen)
    (fun error => do
      release .data
      fail error)
    (fun data => do
      let memory ← load
      onlyIf memory.client.callbacks.colorMapUpdate (do
        let red : Bool ← ask (Operation.buffer .red (2 * numColors.toNat))
        let green : Bool ← ask (Operation.buffer .green (2 * numColors.toNat))
        let blue : Bool ← ask (Operation.buffer .blue (2 * numColors.toNat))
        deliverColors (.colorMapUpdate firstColor numColors (colorChannel data numColors.toNat 0)
          (colorChannel data numColors.toNat 2) (colorChannel data numColors.toNat 4))
          red green blue)
      release .data)

/-- `handle_bell`. -/
def handleBell : Managed Unit := fire .bell

/-- `handle_server_cut_text`. Without a text there is no block to release. -/
def handleServerCutText : Managed Unit := do
  let header ← plain (transportRecv 7)
  let length := readU32 (header.drop 3)
  if 0 < length then do
    let capacity := (length + 1).toNat
    let allocated : Bool ← ask (Operation.buffer .text capacity)
    failIf (allocated = false) .nomem
    faultIf (capacity < length.toNat) (.outOfBounds .serverText)
    settle (recvInto .text length.toNat)
      (fun error => do
        release .text
        fail error)
      (fun text => do
        faultIf (capacity ≤ length.toNat) (.outOfBounds .serverText)
        fire (.serverCutText (text ++ [0]) length)
        release .text)
  else
    fire (.serverCutText [0] length)

/-- `ovnc__recv_server_message`. -/
def recvServerMessage (word : WordSize) : Managed Unit := do
  let msgType ← plain (transportRecv 1)
  if byteAt msgType 0 = 0 then handleFbUpdate word
  else if byteAt msgType 0 = 1 then handleColorMapEntries
  else if byteAt msgType 0 = 2 then handleBell
  else if byteAt msgType 0 = 3 then handleServerCutText
  else fail .protocol

/-! ## The handshake -/

/-- `read_failure_reason`. -/
def readFailureReason : Managed Error := do
  let lenBuf ← attempt (plain (transportRecv 4))
  match lenBuf with
  | .error error => return error
  | .ok lenBuf => do
    let reasonLen := readU32 lenBuf
    onlyIf (0 < reasonLen) (do
      let tmp : Bool ← ask (Operation.buffer .tmp reasonLen.toNat)
      onlyIf tmp (do
        let _ ← attempt (recvInto .tmp reasonLen.toNat)
        release .tmp))
    return .connectionRefused

/-- `negotiate_security`. The list of types is released before the client looks at what it has
selected from it. -/
def negotiateSecurity : Managed Unit := do
  let memory ← load
  if memory.client.connInfo.rfbVersion = .v33 then do
    let buf ← plain (transportRecv 4)
    let secType := readU32 buf
    if secType = 0 then do
      let error ← readFailureReason
      fail error
    else do
      failIf (secType ≠ 1) .authUnsupported
      plain (recordSecurity .none)
  else do
    let countBuf ← plain (transportRecv 1)
    let count := byteAt countBuf 0
    if count = 0 then do
      let error ← readFailureReason
      fail error
    else do
      let allocated : Bool ← ask (Operation.buffer .types count.toNat)
      failIf (allocated = false) .nomem
      settle (recvInto .types count.toNat)
        (fun error => do
          release .types
          fail error)
        (fun types => do
          release .types
          failIf (¬ types.contains 1) .authUnsupported
          plain (transportSend [1])
          plain (recordSecurity .none))

/-- `check_security_result`. -/
def checkSecurityResult : Managed Unit := do
  let memory ← load
  if memory.client.connInfo.rfbVersion = .v38 then do
    let buf ← plain (transportRecv 4)
    onlyIf (readU32 buf ≠ 0) (do
      let _ ← readFailureReason
      fail .authFailed)
  else
    onlyIf (memory.client.connInfo.securityType = .vncAuth) (do
      let buf ← plain (transportRecv 4)
      failIf (readU32 buf ≠ 0) .authFailed)

/-- `ovnc__send_set_encodings`. The buffer is released whether or not it was sent. -/
def sendSetEncodings (word : WordSize) (encodings : List EncodingType) : Managed Unit := do
  let msgLen := word.wrap (4 + 4 * encodings.length)
  let allocated : Bool ← ask (Operation.buffer .messageBuf msgLen)
  failIf (allocated = false) .nomem
  faultIf (msgLen < 4 + 4 * encodings.length) (.outOfBounds .message)
  settle (sendFrom .messageBuf (setEncodingsBuffer encodings))
    (fun error => do
      release .messageBuf
      fail error)
    (fun _ => release .messageBuf)

/-- `send_initial_messages`. -/
def sendInitialMessages (word : WordSize) : Managed Unit := do
  let memory ← load
  onSome memory.client.pixelFormat (fun format => plain (sendSetPixelFormat format))
  onSome memory.client.encodings (fun encodings =>
    onlyIf (encodings.length > 0) (sendSetEncodings word encodings))

/-- `ovnc__handshake`. -/
def handshake (word : WordSize) : Managed Unit := do
  plain negotiateVersion
  negotiateSecurity
  checkSecurityResult
  plain (doInitialization word)
  sendInitialMessages word

/-! ## The client API -/

/-- The three steps of a failed `ovnc_client_connect` after the transport exists. -/
def abandonConnect (error : Error) : Managed Unit := do
  transportDestroy
  plain platformCleanup
  fail error

/-- The last part of `ovnc_client_connect`: the handshake on an open connection. -/
def connectHandshake (word : WordSize) : Managed Unit := do
  let shaken ← attempt (handshake word)
  match shaken with
  | .error error => abandonConnect error
  | .ok () => plain (modifyClient (fun client => { client with state := .connected }))

/-- The part of `ovnc_client_connect` after the transport has been created. -/
def connectTransport (word : WordSize) : Managed Unit := do
  let connected ← attempt (plain transportConnect)
  match connected with
  | .error error => abandonConnect error
  | .ok () => connectHandshake word

/-- `ovnc_client_connect`. -/
def clientConnect (word : WordSize) : Managed Unit := do
  let memory ← load
  failIf (memory.client.state ≠ .created) .invalidArg
  plain platformInit
  let created ← attempt transportCreate
  match created with
  | .error error => do
    plain platformCleanup
    fail error
  | .ok () => connectTransport word

/-- What `ovnc_client_process_message` and `ovnc_client_run` do when a message could
not be processed. -/
def tearDown (error : Error) : Managed Unit := do
  fire (.disconnected error)
  clientDisconnect
  fail error

/-- `ovnc_client_process_message`. -/
def clientProcessMessage (word : WordSize) : Managed Unit := do
  plain requireConnected
  let received ← attempt (recvServerMessage word)
  match received with
  | .ok () => return ()
  | .error error => tearDown error

/-- The loop of `ovnc_client_run`, for at most `bound` iterations. -/
def runLoop (word : WordSize) : Nat → Managed Unit
  | 0 => stalled
  | bound + 1 => do
    let memory ← load
    if memory.client.state = .connected then do
      let received ← attempt (recvServerMessage word)
      match received with
      | .ok () => runLoop word bound
      | .error error => tearDown error
    else return ()

/-- `ovnc_client_run`. -/
def clientRun (word : WordSize) (bound : Nat) : Managed Unit := do
  plain requireConnected
  runLoop word bound

/-- `ovnc_client_set_encodings`. -/
def clientSetEncodings (word : WordSize) (encodings : Option (List EncodingType)) :
    Managed Unit := do
  match encodings with
  | none => fail .invalidArg
  | some encodings => do
    plain requireConnected
    sendSetEncodings word encodings

/-- The routine a call executes. The other senders and `ovnc_client_set_pixel_format` involve
no block but pixel storage. -/
def perform (word : WordSize) (bound : Nat) : ApiCall → Managed Unit
  | .connect => clientConnect word
  | .disconnect => clientDisconnect
  | .processMessage => clientProcessMessage word
  | .run => clientRun word bound
  | .requestUpdate rect incremental => plain (clientRequestUpdate rect incremental)
  | .sendKeyEvent key down => plain (clientSendKeyEvent key down)
  | .sendPointerEvent x y buttonMask => plain (clientSendPointerEvent x y buttonMask)
  | .sendCutText text length => plain (clientSendCutText text length)
  | .setPixelFormat format => plain (clientSetPixelFormat word format)
  | .setEncodings encodings => clientSetEncodings word encodings

/-- `ovnc_client_destroy`. The deep copies of the configuration are released with the record. -/
def clientDestroy : Managed Unit := do
  clientDisconnect
  let memory ← load
  onlyIf (memory.client.callbacks.allocFramebuffer = false)
    (plain (freePixels memory.client.framebuffer.data))
  onlyIf memory.client.encodings.isSome (release .encodings)
  onlyIf memory.client.pixelFormat.isSome (release .pixelFormat)
  release .host
  release .client

/-! ## Creation -/

/-- What `ovnc_client_create` runs as. There is no client yet, so it has no memory. -/
abbrev Creation (α : Type) := Program Unit Empty Empty Operation Reply α

/-- The pointer, if a block was obtained for it. -/
def held (obtained : Bool) (pointer : Pointer) : List Pointer := if obtained then [pointer] else []

/-- Release the blocks obtained so far and return NULL. -/
def abandonCreate : List Pointer → Creation (Option Client)
  | [] => return none
  | pointer :: pointers => do
    release pointer
    abandonCreate pointers

/-- The part of `ovnc_client_create` that copies the list of encodings. -/
def copyEncodings (word : WordSize) (made : Client) : Creation (Option Client) :=
  match made.encodings with
  | none => return some made
  | some encodings => do
    let copied : Bool ← ask (Operation.buffer .encodings (word.wrap (encodings.length * 4)))
    if copied = false then
      abandonCreate (held made.pixelFormat.isSome .pixelFormat ++ [.host, .client])
    else return some made

/-- The part of `ovnc_client_create` that copies the pixel format. -/
def copyPixelFormat (word : WordSize) (made : Client) : Creation (Option Client) :=
  match made.pixelFormat with
  | none => copyEncodings word made
  | some _ => do
    let copied : Bool ← ask (Operation.object .pixelFormat)
    if copied = false then abandonCreate [.host, .client] else copyEncodings word made

/-- `ovnc_client_create`. -/
def clientCreate (word : WordSize) (config : ClientConfig) (callbacks : Option ClientCallbacks) :
    Creation (Option Client) :=
  match config.host with
  | none => return none
  | some name => do
    let allocated : Bool ← ask (Operation.object .client)
    if allocated = false then return none
    else do
      let copied : Bool ← ask (Operation.buffer .host (name.utf8ByteSize + 1))
      if copied = false then abandonCreate [.client]
      else copyPixelFormat word (freshClient name config (callbacks.getD {}))

end Heap

end OpenVnc
