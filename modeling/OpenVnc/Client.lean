import OpenVnc.Handshake
import OpenVnc.RecvMessages

/-!
# The client API

`ovnc_client.c`. Client pointers are not modelled as nullable: every operation
answers a null client without touching anything. The message loop of
`ovnc_client_run` takes a bound on its iterations; a loop that reaches the bound
has not returned yet.
-/

namespace OpenVnc

open Interaction Interaction.Program

/-- `ovnc_client_config_t`, less `user_data`. Pointers that may be null are options, and a list
stands for its pointer and its count. -/
structure ClientConfig where
  host : Option String
  port : UInt16 := 0
  shared : UInt8 := 0
  pixelFormat : Option PixelFormat := none
  encodings : Option (List EncodingType) := none
  connectTimeoutMs : UInt32 := 0

/-- The all-zero format of a fresh client. The record comes from `calloc`. -/
def zeroFormat : PixelFormat := ⟨0, 0, 0, 0, 0, 0, 0, 0, 0, 0⟩

/-- The all-zero connection information of a fresh client. Its version and its security type are
the zero values of their enumerations. -/
def zeroConnInfo : ConnectionInfo where
  name := ⟨List.replicate serverNameMax 0, by simp⟩
  nameLength := 0
  nameTruncated := false
  width := 0
  height := 0
  pixelFormat := zeroFormat
  rfbVersion := .unset
  securityType := .invalid

/-- The all-zero framebuffer record of a fresh client. There is no block yet, and its size is
zero. -/
def zeroFramebuffer : Framebuffer := ⟨0, 0, zeroFormat, none, 0⟩

/-- The record `ovnc_client_create` fills in when its allocations succeed. A
configured list of encodings is copied only when it is not empty. -/
def freshClient (host : String) (config : ClientConfig) (callbacks : ClientCallbacks) :
    Client where
  host := host
  port := if config.port = 0 then 5900 else config.port
  shared := config.shared
  pixelFormat := config.pixelFormat
  encodings := config.encodings.filter (fun encodings => encodings.length > 0)
  connectTimeoutMs := config.connectTimeoutMs
  callbacks := callbacks
  state := .created
  transport := none
  connInfo := zeroConnInfo
  framebuffer := zeroFramebuffer

/-- `ovnc_client_create`. The client is `none` when the configuration has no host
or one of the four allocations, each given by whether it succeeds, does not. -/
def clientCreate (config : ClientConfig) (callbacks : Option ClientCallbacks)
    (client host pixelFormat encodings : Bool) : Option Client := do
  let name ← config.host
  let made := freshClient name config (callbacks.getD {})
  if client && host && (pixelFormat || config.pixelFormat.isNone) &&
      (encodings || made.encodings.isNone) then
    some made
  else none

/-- A client that was created is a fresh one. Its record does not depend on how the allocations
went. -/
theorem clientCreate_some {config : ClientConfig} {callbacks : Option ClientCallbacks}
    {record host pixelFormat encodings : Bool} {client : Client}
    (made : clientCreate config callbacks record host pixelFormat encodings = some client) :
    ∃ name, client = freshClient name config (callbacks.getD {}) := by
  unfold clientCreate at made
  obtain ⟨name, named, made⟩ := Option.bind_eq_some_iff.mp made
  dsimp only at made
  split at made
  · exact ⟨name, (Option.some.inj made).symm⟩
  · exact absurd made (by simp)

/-- The three steps of a failed `ovnc_client_connect` after the transport exists. The client
goes back to what it was before, apart from what the handshake had written. -/
def abandonConnect (error : Error) : Routine Unit := do
  transportDestroy
  platformCleanup
  fail error

/-- The last part of `ovnc_client_connect`: the handshake on an open connection. The client
counts as connected only once all of it has succeeded. -/
def connectHandshake (word : WordSize) : Routine Unit := do
  let shaken ← attempt (handshake word)
  match shaken with
  | .error error => abandonConnect error
  | .ok () => modifyClient (fun client => { client with state := .connected })

/-- The part of `ovnc_client_connect` after the transport has been created. It is reached with
the platform initialized and no connection yet. -/
def connectTransport (word : WordSize) : Routine Unit := do
  let connected ← attempt transportConnect
  match connected with
  | .error error => abandonConnect error
  | .ok () => connectHandshake word

/-- `ovnc_client_connect`. A client connects once; what was begun is taken back when a part of
it fails. -/
def clientConnect (word : WordSize) : Routine Unit := do
  let memory ← load
  failIf (memory.client.state ≠ .created) .invalidArg
  platformInit
  let created ← attempt transportCreate
  match created with
  | .error error => do
    platformCleanup
    fail error
  | .ok () => connectTransport word

/-- The guard of every operation that needs a connection. A client that has been disconnected is
refused like one that never connected. -/
def requireConnected : Routine Unit := do
  let memory ← load
  failIf (memory.client.state ≠ .connected) .invalidArg

/-- What `ovnc_client_process_message` and `ovnc_client_run` do when a message could
not be processed: report the error, disconnect, and return the error. -/
def tearDown (error : Error) : Routine Unit := do
  fire (.disconnected error)
  clientDisconnect
  fail error

/-- `ovnc_client_process_message`; its two branches for a closed connection and for
the other errors do the same. -/
def clientProcessMessage (word : WordSize) : Routine Unit := do
  requireConnected
  let received ← attempt (recvServerMessage word)
  match received with
  | .ok () => return ()
  | .error error => tearDown error

/-- The loop of `ovnc_client_run`, for at most `bound` iterations. The bound stands for how long
the program is watched, and is in no result: a loop that is still going when it is used up
counts as waiting. -/
def runLoop (word : WordSize) : Nat → Routine Unit
  | 0 => stalled
  | bound + 1 => do
    let memory ← load
    if memory.client.state = .connected then do
      let received ← attempt (recvServerMessage word)
      match received with
      | .ok () => runLoop word bound
      | .error error => tearDown error
    else return ()

/-- `ovnc_client_run`. It ends when a message could not be processed or a callback has
disconnected the client. -/
def clientRun (word : WordSize) (bound : Nat) : Routine Unit := do
  requireConnected
  runLoop word bound

/-- `ovnc_client_request_update`; without a rectangle, the whole framebuffer. The flag is passed
on as the low byte of the `int`. -/
def clientRequestUpdate (rect : Option Rect) (incremental : Int32) : Routine Unit := do
  requireConnected
  let memory ← load
  let framebuffer := memory.client.framebuffer
  let rect := rect.getD ⟨0, 0, framebuffer.width, framebuffer.height⟩
  sendFbUpdateRequest incremental.toUInt32.toUInt8 rect.x rect.y rect.width rect.height

/-- `ovnc_client_send_key_event`. Any nonzero value means that the key is down. -/
def clientSendKeyEvent (key : UInt32) (down : Int32) : Routine Unit := do
  requireConnected
  sendKeyEvent key (if down ≠ 0 then 1 else 0)

/-- `ovnc_client_send_pointer_event`. The values are passed on as they are. -/
def clientSendPointerEvent (x y : UInt16) (buttonMask : UInt8) : Routine Unit := do
  requireConnected
  sendPointerEvent x y buttonMask

/-- `ovnc_client_send_cut_text`. A null text is refused, also with a length of zero. -/
def clientSendCutText (text : Option (List UInt8)) (length : UInt32) : Routine Unit := do
  requireConnected
  match text with
  | none => fail .invalidArg
  | some text => sendClientCutText text length

/-- The part of `ovnc_client_set_pixel_format` after the message has been sent: the format
is switched, and storage is replaced when the bytes per pixel differ. -/
def adoptPixelFormat (word : WordSize) (format : PixelFormat) : Routine Unit := do
  let newBpp := format.bytesPerPixel
  let memory ← load
  let framebuffer := memory.client.framebuffer
  let oldBpp := framebuffer.format.bytesPerPixel
  modifyFramebuffer (fun framebuffer => { framebuffer with format := format })
  let newSize := word.product framebuffer.width.toNat framebuffer.height.toNat (word.ofInt newBpp)
  onlyIf (newBpp ≠ oldBpp) (do
    modifyFramebuffer (fun framebuffer => { framebuffer with dataSize := newSize })
    if memory.client.callbacks.allocFramebuffer then
      callAllocFramebuffer
    else do
      let newData ← callocPixels newSize
      match newData with
      | none => fail .nomem
      | some block => do
        freePixels framebuffer.data
        modifyFramebuffer (fun framebuffer => { framebuffer with data := some block }))

/-- `ovnc_client_set_pixel_format`. The message is sent first, and only then is the client's own
record changed. -/
def clientSetPixelFormat (word : WordSize) (format : Option PixelFormat) : Routine Unit := do
  match format with
  | none => fail .invalidArg
  | some format => do
    requireConnected
    failIf (format.bytesPerPixel < 0) .invalidArg
    sendSetPixelFormat format
    adoptPixelFormat word format

/-- `ovnc_client_set_encodings`. A null list is refused; an empty one is sent. -/
def clientSetEncodings (word : WordSize) (encodings : Option (List EncodingType)) :
    Routine Unit := do
  match encodings with
  | none => fail .invalidArg
  | some encodings => do
    requireConnected
    sendSetEncodings word encodings

/-- `ovnc_client_destroy`, up to the release of the record itself. The pixels are the
application's when it has an allocator of its own. -/
def clientDestroy : Routine Unit := do
  clientDisconnect
  let memory ← load
  onlyIf (memory.client.callbacks.allocFramebuffer = false)
    (freePixels memory.client.framebuffer.data)

/-- `ovnc_client_is_connected`. It tells the state and does not look at the connection. -/
def clientIsConnected (client : Client) : Bool := client.state = .connected

/-- `ovnc_client_get_connection_info`. A client that has never tried to connect has none; after
a failed attempt it is still such a client. -/
def clientGetConnectionInfo (client : Client) : Except Error ConnectionInfo :=
  if client.state = .created then .error .invalidArg else .ok client.connInfo

end OpenVnc
