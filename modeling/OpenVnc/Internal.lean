import OpenVnc.Pixel
import OpenVnc.Interaction.Handlers

/-!
# The client record, its environment and its callbacks

`Client` is `struct ovnc_client`. Everything a routine asks of the world outside
the library is a `Request`: a transport operation, an allocation, or a call of a
function of the application. A routine works on `Memory`, which holds the client
it was called on and the process-wide initialization count.

A callback's answer says whether the application called `ovnc_client_disconnect`
on this client while the callback ran; other calls back into the library are not
modelled. The loop position of `handle_fb_update`, a local variable of the source,
is kept in memory as `pendingRects` so that statements can refer to it; no routine
reads it.
-/

namespace OpenVnc

open Interaction Interaction.Program

/-- `ovnc_client_callbacks_t`: which of the function pointers are set. The library
never calls `get_password`. -/
structure ClientCallbacks where
  allocFramebuffer : Bool := false
  framebufferUpdate : Bool := false
  framebufferUpdateFinished : Bool := false
  cursorUpdate : Bool := false
  desktopResize : Bool := false
  bell : Bool := false
  serverCutText : Bool := false
  colorMapUpdate : Bool := false
  disconnected : Bool := false
deriving DecidableEq, Repr

/-- A call of one of the application's callbacks, with the arguments it gets. A
null pointer to cursor data is `none`. -/
inductive Callback where
  | framebufferUpdate (rect : Rect)
  | framebufferUpdateFinished
  | cursorUpdate (hotspotX hotspotY width height : UInt16)
      (pixels bitmask : Option (List UInt8))
  | desktopResize (width height : UInt16)
  | bell
  | serverCutText (text : List UInt8) (length : UInt32)
  | colorMapUpdate (firstColor numColors : UInt16) (red green blue : List UInt16)
  | disconnected (reason : Error)
deriving DecidableEq, Repr

/-- Whether the function pointer a call would go through is set. A call through a pointer that
is not set is left out by the source. -/
def ClientCallbacks.has (callbacks : ClientCallbacks) : Callback → Bool
  | .framebufferUpdate _ => callbacks.framebufferUpdate
  | .framebufferUpdateFinished => callbacks.framebufferUpdateFinished
  | .cursorUpdate .. => callbacks.cursorUpdate
  | .desktopResize .. => callbacks.desktopResize
  | .bell => callbacks.bell
  | .serverCutText .. => callbacks.serverCutText
  | .colorMapUpdate .. => callbacks.colorMapUpdate
  | .disconnected _ => callbacks.disconnected

/-- `ovnc_client_state_t`. A client passes through them in this order and never goes back. -/
inductive ClientState where
  | created
  | connected
  | disconnected
deriving DecidableEq, Repr

/-- A socket descriptor. A negative one is no socket. -/
abbrev Socket := Int

/-- `OVNC_INVALID_SOCKET`. -/
def invalidSocket : Socket := -1

/-- `struct ovnc_transport`. Its one field is the socket. -/
structure Transport where
  sock : Socket
deriving DecidableEq, Repr

/-- `struct ovnc_client`, less `user_data`, which no modelled routine reads. A null
pointer is `none`; the encodings carry their number as the length of the list. -/
structure Client where
  host : String
  port : UInt16
  shared : UInt8
  pixelFormat : Option PixelFormat
  encodings : Option (List EncodingType)
  connectTimeoutMs : UInt32
  callbacks : ClientCallbacks
  state : ClientState
  transport : Option Transport
  connInfo : ConnectionInfo
  framebuffer : Framebuffer
deriving DecidableEq

/-- What a routine reads and writes: the client it was called on, the counter of
the platform layer, and how many rectangles of the update in progress follow the
current one. -/
structure Memory where
  client : Client
  platformInitCount : Int
  pendingRects : Nat
deriving DecidableEq

/-- How a receive of a given length ends: with all the bytes, or with the error
and the bytes that had arrived. -/
inductive RecvAnswer where
  | complete (bytes : List UInt8)
  | stopped (received : List UInt8) (error : Error)
deriving DecidableEq, Repr

/-- How a send ends: with all the bytes handed over, or with the error and the
number of bytes that were. -/
inductive SendAnswer where
  | complete
  | stopped (written : Nat) (error : Error)
deriving DecidableEq, Repr

/-- What a routine asks of its environment. They are the calls that leave the library: to the
network, to the heap and to the application. -/
inductive Request where
  | recv (len : Nat)
  | send (data : List UInt8)
  | malloc (size : Nat)
  | calloc (size : Nat)
  | free (block : Nat)
  | callocTransport
  | socketConnect (host : String) (port : UInt16) (timeoutMs : UInt32)
  | socketClose (sock : Socket)
  | callback (call : Callback)
  | allocFramebuffer (framebuffer : Framebuffer)
deriving DecidableEq

/-- The type of the answers to each request. An allocation of working storage
answers whether it succeeded; one of pixel storage answers the block obtained. The
`alloc_framebuffer` callback answers its error, if any, and the record as it left
it. -/
abbrev Answer : Request → Type
  | .recv _ => RecvAnswer
  | .send _ => SendAnswer
  | .malloc _ => Bool
  | .calloc _ => Option Nat
  | .free _ => Unit
  | .callocTransport => Bool
  | .socketConnect .. => Except Error Socket
  | .socketClose _ => Unit
  | .callback _ => Bool
  | .allocFramebuffer _ => Option Error × Framebuffer

/-- The arrays whose bounds a routine could overrun: pixel storage, the text of
ServerCutText, the server name, a message under construction, and the text the
application passes to ClientCutText. -/
inductive Buffer where
  | pixels
  | serverText
  | name
  | message
  | clientText
deriving DecidableEq, Repr

/-- Behaviour the language leaves undefined: the transport is used through a null
pointer, or an array outside its bounds. -/
inductive Fault where
  | nullTransport
  | outOfBounds (buffer : Buffer)
deriving DecidableEq, Repr

/-- A routine of the library. Its errors are those it returns, and its faults stand for
undefined behaviour. -/
abbrev Routine (α : Type) := Program Memory Error Fault Request Answer α

/-- An answered request of a routine. The memory of the client at that moment is part of it. -/
abbrev Step := Event Memory Request Answer

/-- Apply a change to the client record. -/
def modifyClient (change : Client → Client) : Routine Unit :=
  update (fun memory => { memory with client := change memory.client })

/-- Apply a change to the framebuffer record. -/
def modifyFramebuffer (change : Framebuffer → Framebuffer) : Routine Unit :=
  modifyClient (fun client => { client with framebuffer := change client.framebuffer })

/-- Apply a change to the connection information. -/
def modifyConnInfo (change : ConnectionInfo → ConnectionInfo) : Routine Unit :=
  modifyClient (fun client => { client with connInfo := change client.connInfo })

/-- `ovnc__platform_init` on POSIX, where it cannot fail. It counts, and the count is all there
is to see of it. -/
def platformInit : Routine Unit :=
  update (fun memory => { memory with platformInitCount := memory.platformInitCount + 1 })

/-- `ovnc__platform_cleanup` on POSIX. It is called once for each initialization that succeeded.
-/
def platformCleanup : Routine Unit :=
  update (fun memory =>
    if memory.platformInitCount > 0 then
      { memory with platformInitCount := memory.platformInitCount - 1 }
    else memory)

/-! ## The effect of the record updates -/

section Rules

variable {may : (request : Request) → Answer request → Prop}
  (post : List Step → Outcome Error Fault Unit → Memory → Prop) (memory : Memory)

/-- A memory with another framebuffer record. -/
def Memory.withFramebuffer (memory : Memory) (framebuffer : Framebuffer) : Memory :=
  { memory with client := { memory.client with framebuffer := framebuffer } }

/-- A memory with other connection information. -/
def Memory.withConnInfo (memory : Memory) (info : ConnectionInfo) : Memory :=
  { memory with client := { memory.client with connInfo := info } }

/-- Changing the client is an update of the memory. -/
@[simp] theorem wp_modifyClient (change : Client → Client) :
    (modifyClient change).wp may post memory ↔
      post [] (.returned ()) { memory with client := change memory.client } := Iff.rfl

/-- Changing the framebuffer record is one of its client. -/
@[simp] theorem wp_modifyFramebuffer (change : Framebuffer → Framebuffer) :
    (modifyFramebuffer change).wp may post memory ↔
      post [] (.returned ()) (memory.withFramebuffer (change memory.client.framebuffer)) :=
  Iff.rfl

/-- Changing the connection information is one of its client as well. -/
@[simp] theorem wp_modifyConnInfo (change : ConnectionInfo → ConnectionInfo) :
    (modifyConnInfo change).wp may post memory ↔
      post [] (.returned ()) (memory.withConnInfo (change memory.client.connInfo)) := Iff.rfl

end Rules

end OpenVnc
