import OpenVnc.Environment
import OpenVnc.Parts

/-!
# What routines leave alone

Receiving, sending and decoding change the connection information and the
framebuffer only; the rest of the client and the process-wide count stand. This
module says so of every routine that calls no callback but the allocator, among
them the whole handshake, in any environment. With the frame comes a fact about
faults: such a routine uses a null transport only if it was started with one.
-/

namespace OpenVnc

open Interaction Interaction.Program

/-- The part of the memory that neither the handshake nor decoding changes. -/
structure Standing where
  host : String
  port : UInt16
  shared : UInt8
  pixelFormat : Option PixelFormat
  encodings : Option (List EncodingType)
  connectTimeoutMs : UInt32
  callbacks : ClientCallbacks
  state : ClientState
  transport : Option Transport
  platformInitCount : Int

/-- The standing part of a memory. -/
def Memory.standing (memory : Memory) : Standing where
  host := memory.client.host
  port := memory.client.port
  shared := memory.client.shared
  pixelFormat := memory.client.pixelFormat
  encodings := memory.client.encodings
  connectTimeoutMs := memory.client.connectTimeoutMs
  callbacks := memory.client.callbacks
  state := memory.client.state
  transport := memory.client.transport
  platformInitCount := memory.platformInitCount

/-- What the decoding of a message leaves alone: all but the framebuffer. -/
def Memory.settled (memory : Memory) : Standing × ConnectionInfo :=
  (memory.standing, memory.client.connInfo)

/-- What the decoding of one rectangle leaves alone: the position in the loop as well. -/
def Memory.placed (memory : Memory) : (Standing × ConnectionInfo) × Nat :=
  (memory.settled, memory.pendingRects)

/-- The requests the handshake issues. -/
def Request.ofHandshake : Request → Bool
  | .recv _ | .send _ | .malloc _ | .calloc _ | .allocFramebuffer _ => true
  | _ => false

/-- The requests the decoding of a server message issues, apart from callbacks. -/
def Request.ofDecoding : Request → Bool
  | .recv _ | .malloc _ | .calloc _ | .free _ | .allocFramebuffer _ => true
  | _ => false

/-- A null transport is used only by a routine that was started with one. -/
def NullOnly (standing : Standing) (fault : Fault) : Prop :=
  fault = .nullTransport → standing.transport = none

/-! ## The transport operations -/

section Operations

variable {may : (request : Request) → Answer request → Prop} {V : Type} {view : Memory → V}
  {admitted : Step → Prop} {tolerated : V → Fault → Prop}

/-- The tolerated faults include the use of a null transport. -/
abbrev ToleratesNull (view : Memory → V) (tolerated : V → Fault → Prop) : Prop :=
  ∀ memory, memory.client.transport = none → tolerated (view memory) .nullTransport

/-- Dereferencing the transport changes nothing and asks for nothing. Its fault has to be
tolerated when there is no transport. -/
theorem derefTransport_keeps (tolerant : ToleratesNull view tolerated) :
    Keeps may view admitted tolerated derefTransport := by
  intro memory
  rw [wp_derefTransport]
  refine ⟨fun missing => ⟨rfl, by simp, fun fault faulted => ?_⟩,
    fun transport _ => ⟨rfl, by simp, nofun⟩⟩
  obtain rfl : Fault.nullTransport = fault := by simpa using faulted
  exact tolerant memory missing

/-- A receive into a buffer of the routine changes nothing in the memory. -/
theorem transportRecv_keeps {len : Nat}
    (within : ∀ memory (answer : RecvAnswer), admitted ⟨memory, .recv len, answer⟩)
    (tolerant : ToleratesNull view tolerated) :
    Keeps may view admitted tolerated (transportRecv len) := by
  apply (derefTransport_keeps tolerant).sequence
  intro _
  apply (Keeps.ask (fun memory answer _ => within memory answer)).sequence
  intro answer
  cases answer with
  | complete bytes => exact Keeps.done bytes
  | stopped received error => exact Keeps.fail error

/-- A send changes nothing in the memory. -/
theorem transportSend_keeps {data : List UInt8}
    (within : ∀ memory (answer : SendAnswer), admitted ⟨memory, .send data, answer⟩)
    (tolerant : ToleratesNull view tolerated) :
    Keeps may view admitted tolerated (transportSend data) := by
  apply (derefTransport_keeps tolerant).sequence
  intro _
  apply (Keeps.ask (fun memory answer _ => within memory answer)).sequence
  intro answer
  cases answer with
  | complete => exact Keeps.done ()
  | stopped written error => exact Keeps.fail error

/-- A change of the client record keeps every view that does not see it. -/
theorem modifyClient_keeps {change : Client → Client}
    (unseen : ∀ memory : Memory,
      view { memory with client := change memory.client } = view memory) :
    Keeps may view admitted tolerated (modifyClient change) :=
  Keeps.update unseen

/-- A receive into pixel storage keeps every view that does not see the bytes stored there,
whether or not all of them arrive. -/
theorem transportRecvPixels_keeps {offset len : Nat}
    (within : ∀ memory (answer : RecvAnswer), admitted ⟨memory, .recv len, answer⟩)
    (unseen : ∀ memory bytes, view (Memory.stored memory offset bytes) = view memory)
    (tolerant : ToleratesNull view tolerated)
    (overrun : ∀ seen, tolerated seen (.outOfBounds .pixels)) :
    Keeps may view admitted tolerated (transportRecvPixels offset len) := by
  have stored (bytes : List UInt8) : Keeps may view admitted tolerated (storePixels offset bytes) :=
    Keeps.update (fun memory => unseen memory bytes)
  apply (derefTransport_keeps tolerant).sequence
  intro _
  apply Keeps.load
  intro memory
  apply (Keeps.faultIf _ overrun).sequence
  intro _
  apply (Keeps.ask (fun memory answer _ => within memory answer)).sequence
  intro answer
  cases answer with
  | complete bytes => exact stored bytes
  | stopped received error => exact (stored received).sequence (fun _ => Keeps.fail error)

/-- The application's allocator may leave any framebuffer in the record, so the view must not see
the framebuffer. -/
theorem callAllocFramebuffer_keeps
    (within : ∀ memory asked (answer : Option Error × Framebuffer),
      admitted ⟨memory, .allocFramebuffer asked, answer⟩)
    (unseen : ∀ memory framebuffer, view (memory.withFramebuffer framebuffer) = view memory) :
    Keeps may view admitted tolerated callAllocFramebuffer := by
  apply Keeps.load
  intro memory
  apply (Keeps.ask (fun memory answer _ => within memory _ answer)).sequence
  intro answer
  apply Keeps.sequence (Keeps.update (fun memory => unseen memory _))
  intro _
  obtain ⟨error, left⟩ := answer
  cases error with
  | none => exact Keeps.done ()
  | some error => exact Keeps.fail error

end Operations

/-! ## Decoding, up to the callback -/

section Decoding

variable {may : (request : Request) → Answer request → Prop}

variable (may) in
/-- A routine that changes the framebuffer only and issues decoding requests only. -/
abbrev Decodes {α : Type} (routine : Routine α) : Prop :=
  Keeps may Memory.placed (fun event => event.request.ofDecoding = true)
    (fun seen fault => NullOnly seen.1.1 fault) routine

/-- A receive belongs to the decoding of a message. -/
theorem transportRecv_decodes (len : Nat) : Decodes may (transportRecv len) :=
  transportRecv_keeps (fun _ _ => rfl) (fun _ missing _ => missing)

/-- So does a receive into pixel storage. -/
theorem transportRecvPixels_decodes (offset len : Nat) :
    Decodes may (transportRecvPixels offset len) :=
  transportRecvPixels_keeps (fun _ _ => rfl) (fun _ _ => rfl) (fun _ missing _ => missing)
    (fun _ => nofun)

/-- The row loop, since each of its receives does. -/
theorem decodeRawRows_decodes (word : WordSize) (rect : Rect) (bpp rowBytes fbStride y rows : Nat) :
    Decodes may (decodeRawRows word rect bpp rowBytes fbStride y rows) := by
  apply (decodeRawRows_operations word rect bpp rowBytes fbStride y rows).lifted
    (Keeps.compositional (fun _ _ => False.elim))
  rintro _ _ ⟨offset, len⟩
  exact transportRecvPixels_decodes offset len

/-- So does the release of pixel storage, if there is any. -/
theorem freePixels_decodes (data : Option Block) : Decodes may (freePixels data) := by
  cases data with
  | none => exact Keeps.done ()
  | some block => exact (Keeps.ask (fun _ _ _ => rfl)).sequence (fun _ => Keeps.done ())

/-- So does the library's allocation of pixel storage. -/
theorem callocPixels_decodes (size : Nat) : Decodes may (callocPixels size) :=
  (Keeps.ask (fun _ _ _ => rfl)).sequence (fun _ => Keeps.done _)

/-- So does a call of the application's allocator. -/
theorem callAllocFramebuffer_decodes : Decodes may callAllocFramebuffer :=
  callAllocFramebuffer_keeps (fun _ _ _ => rfl) (fun _ _ => rfl)

/-- So does the allocation of a buffer. -/
theorem malloc_decodes (size : Nat) : Decodes may (ask (Request.malloc size)) :=
  Keeps.ask (fun _ _ _ => rfl)

end Decoding

/-! ## Routines that exchange bytes -/

section Exchanging

variable {V : Type} {view : Memory → V} {admitted : Step → Prop} {tolerated : V → Fault → Prop}

/-- The requests of an operation that sends are admitted, and so are the faults it can
commit. -/
structure Transmits (view : Memory → V) (admitted : Step → Prop)
    (tolerated : V → Fault → Prop) : Prop where
  sent : ∀ memory data (answer : SendAnswer), admitted ⟨memory, .send data, answer⟩
  allocated : ∀ memory size (answer : Bool), admitted ⟨memory, .malloc size, answer⟩
  missing : ToleratesNull view tolerated
  overrun : ∀ seen buffer, tolerated seen (.outOfBounds buffer)

/-- The view sees neither bytes nor connection information, the requests of an exchange of
bytes are admitted, and so are the faults one can commit. -/
structure Overlooks (view : Memory → V) (admitted : Step → Prop)
    (tolerated : V → Fault → Prop) : Prop where
  received : ∀ memory len (answer : RecvAnswer), admitted ⟨memory, .recv len, answer⟩
  sent : ∀ memory data (answer : SendAnswer), admitted ⟨memory, .send data, answer⟩
  allocated : ∀ memory size (answer : Bool), admitted ⟨memory, .malloc size, answer⟩
  recorded : ∀ memory info, view (memory.withConnInfo info) = view memory
  missing : ToleratesNull view tolerated
  overrun : ∀ seen buffer, tolerated seen (.outOfBounds buffer)

variable {may : (request : Request) → Answer request → Prop} {α : Type} {routine : Routine α}

/-- Where the overrun of any buffer is tolerated, what the parts keep the whole keeps. -/
theorem keeps_compositional (overrun : ∀ seen buffer, tolerated seen (.outOfBounds buffer)) :
    Compositional Fault.OfBuffer (fun _ (routine : Routine _) =>
      Keeps may view admitted tolerated routine) := by
  apply Keeps.compositional
  rintro seen _ ⟨buffer, -, rfl⟩
  exact overrun seen buffer

namespace Transmits

variable (transmits : Transmits view admitted tolerated)
include transmits

/-- One operation that sends. -/
theorem transmission (operation : Transmission α routine) :
    Keeps may view admitted tolerated routine := by
  cases operation with
  | send data =>
    exact transportSend_keeps (fun memory => transmits.sent memory data) transmits.missing
  | malloc size => exact Keeps.ask (fun memory answer _ => transmits.allocated memory size answer)

/-- Whatever only sends. -/
theorem keeps (comprises : Comprises Transmission routine) :
    Keeps may view admitted tolerated routine :=
  comprises.lifted (keeps_compositional transmits.overrun) transmits.transmission

end Transmits

namespace Overlooks

variable (overlooks : Overlooks view admitted tolerated)
include overlooks

/-- What overlooks an exchange of bytes overlooks its sends. -/
theorem transmits : Transmits view admitted tolerated :=
  ⟨overlooks.sent, overlooks.allocated, overlooks.missing, overlooks.overrun⟩

/-- A receive into the name array changes the connection information only. -/
theorem transportRecvName (len : Nat) :
    Keeps may view admitted tolerated (OpenVnc.transportRecvName len) := by
  have stored (change : ConnectionInfo → ConnectionInfo) :
      Keeps may view admitted tolerated (modifyConnInfo change) :=
    Keeps.update (fun memory => overlooks.recorded memory _)
  apply (derefTransport_keeps overlooks.missing).sequence
  intro _
  apply (Keeps.faultIf _ (fun seen => overlooks.overrun seen _)).sequence
  intro _
  refine (Keeps.ask (fun memory answer _ => overlooks.received memory len answer)).sequence
    (fun answer => ?_)
  cases answer with
  | complete bytes => exact stored _
  | stopped received error => exact (stored _).sequence (fun _ => Keeps.fail error)

/-- One operation of an exchange. -/
theorem exchange (operation : Exchange α routine) : Keeps may view admitted tolerated routine := by
  cases operation with
  | transmit given => exact overlooks.transmits.transmission given
  | recv len =>
    exact transportRecv_keeps (fun memory => overlooks.received memory len) overlooks.missing
  | recvName len => exact overlooks.transportRecvName len
  | record change => exact Keeps.update (fun memory => overlooks.recorded memory _)

/-- Whatever only exchanges bytes and records what it is told. -/
theorem exchanges (comprises : Comprises Exchange routine) :
    Keeps may view admitted tolerated routine :=
  comprises.lifted (keeps_compositional overlooks.overrun) overlooks.exchange

/-- `ovnc__handshake`, whatever the server does and however it ends, if the framebuffer part
of `do_initialization` keeps the view as well. -/
theorem handshake (word : WordSize)
    (initializes : Keeps may view admitted tolerated (initFramebuffer word)) :
    Keeps may view admitted tolerated (OpenVnc.handshake word) := by
  apply (handshake_parts word).lifted (keeps_compositional overlooks.overrun)
  intro _ _ part
  cases part with
  | exchange given => exact overlooks.exchange given
  | setUp => exact initializes

end Overlooks

end Exchanging

/-! ## Pixel storage -/

section Allocating

variable {may : (request : Request) → Answer request → Prop} {V : Type} {view : Memory → V}
  {admitted : Step → Prop} {tolerated : V → Fault → Prop} {α : Type} {routine : Routine α}
  {changes : (Framebuffer → Framebuffer) → Prop}

/-- The view sees no change of the record of the given kind, the application's allocator
included, and requests for storage are admitted. -/
structure Allocates (may : (request : Request) → Answer request → Prop) (view : Memory → V)
    (admitted : Step → Prop) (tolerated : V → Fault → Prop)
    (changes : (Framebuffer → Framebuffer) → Prop) : Prop where
  modified : ∀ change, changes change → ∀ memory : Memory,
    view (memory.withFramebuffer (change memory.client.framebuffer)) = view memory
  called : Keeps may view admitted tolerated callAllocFramebuffer
  allocated : ∀ memory size (answer : Option Nat), admitted ⟨memory, .calloc size, answer⟩

namespace Allocates

variable (allocates : Allocates may view admitted tolerated changes)
include allocates

/-- One operation that gives the record storage. -/
theorem allocation (operation : Allocation changes α routine) :
    Keeps may view admitted tolerated routine := by
  cases operation with
  | modify given => exact modifyClient_keeps (fun memory => allocates.modified _ given memory)
  | allocate => exact allocates.called
  | calloc size => exact Keeps.ask (fun memory answer _ => allocates.allocated memory size answer)

/-- One operation that replaces its storage, if releases are admitted as well. -/
theorem replacement (released : ∀ memory id answer, admitted ⟨memory, .free id, answer⟩)
    (operation : Replacement changes α routine) : Keeps may view admitted tolerated routine := by
  cases operation with
  | obtain given => exact allocates.allocation given
  | free id => exact Keeps.ask (fun memory answer _ => released memory id answer)

end Allocates

/-- The framebuffer part of `do_initialization` changes the framebuffer only. -/
theorem initFramebuffer_keeps
    (unseen : ∀ memory framebuffer, view (memory.withFramebuffer framebuffer) = view memory)
    (allocated : ∀ memory size (answer : Option Nat), admitted ⟨memory, .calloc size, answer⟩)
    (called : ∀ memory asked (answer : Option Error × Framebuffer),
      admitted ⟨memory, .allocFramebuffer asked, answer⟩) (word : WordSize) :
    Keeps may view admitted tolerated (initFramebuffer word) := by
  have allocates : Allocates may view admitted tolerated AnyChange :=
    ⟨fun _ _ memory => unseen memory _, callAllocFramebuffer_keeps called unseen, allocated⟩
  exact (initFramebuffer_allocation word).lifted (Keeps.compositional (fun _ _ => False.elim))
    allocates.allocation

/-- Adopting a format changes the framebuffer only, of which the size stays. -/
theorem adoptPixelFormat_keeps
    (unseen : ∀ memory framebuffer, framebuffer.width = memory.client.framebuffer.width →
      framebuffer.height = memory.client.framebuffer.height →
      view (memory.withFramebuffer framebuffer) = view memory)
    (allocates : Keeps may view admitted tolerated callAllocFramebuffer)
    (within : ∀ memory request answer, request.ofDecoding = true →
      (∀ len, request ≠ .recv len) → admitted ⟨memory, request, answer⟩)
    (word : WordSize) (format : PixelFormat) :
    Keeps may view admitted tolerated (adoptPixelFormat word format) := by
  have operations : Allocates may view admitted tolerated SameExtent :=
    ⟨fun _ same memory => unseen memory _ (same.width _) (same.height _), allocates,
      fun _ _ _ => within _ _ _ rfl (by simp)⟩
  exact (adoptPixelFormat_replacement word format).lifted
    (Keeps.compositional (fun _ _ => False.elim))
    (operations.replacement (fun _ _ _ => within _ _ _ rfl (by simp)))

end Allocating

/-! ## The handshake -/

section Shaking

variable {may : (request : Request) → Answer request → Prop}

variable (may) in
/-- A routine that leaves the standing part alone and issues handshake requests only. -/
abbrev Shakes {α : Type} (routine : Routine α) : Prop :=
  Keeps may Memory.standing (fun event => event.request.ofHandshake = true) NullOnly routine

/-- The set-up of the framebuffer leaves the standing part alone. -/
theorem initFramebuffer_shakes (word : WordSize) : Shakes may (initFramebuffer word) :=
  initFramebuffer_keeps (fun _ _ => rfl) (fun _ _ _ => rfl) (fun _ _ _ => rfl) word

/-- The handshake dials nobody, closes nothing and calls nobody but the allocator. -/
theorem handshake_shakes (word : WordSize) : Shakes may (handshake word) := by
  apply Overlooks.handshake _ word (initFramebuffer_shakes word)
  constructor
  case missing => exact fun _ missing _ => missing
  case overrun => exact fun _ _ => nofun
  all_goals intros; rfl

end Shaking

end OpenVnc
