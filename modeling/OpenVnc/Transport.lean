import OpenVnc.Internal

/-!
# The transport layer

The operations of `ovnc_transport.c`. Each dereferences the transport it is given,
so calling one through a null pointer is a fault. `transportRecv` receives into a
buffer of exactly the requested size. `transportRecvPixels` receives into the
framebuffer, and asking for more bytes than the block has room for is a fault as
well, whether or not those bytes arrive.
-/

namespace OpenVnc

open Interaction Interaction.Program

/-- The answers an environment can give when nothing is assumed of it but the
interface: a completed receive has the requested length, a stopped operation has
not finished, and only the two errors of the socket loops occur. -/
def Allowed : (request : Request) → Answer request → Prop
  | .recv len, .complete bytes => bytes.length = len
  | .recv len, .stopped received error =>
      received.length < len ∧ (error = .io ∨ error = .connectionClosed)
  | .send _, .complete => True
  | .send data, .stopped written error =>
      written < data.length ∧ (error = .io ∨ error = .connectionClosed)
  | .socketConnect .., .ok sock => sock ≠ invalidSocket
  | _, _ => True

/-- The transport pointer, dereferenced. A call on a client without one is a fault of the
library, not an error. -/
def derefTransport : Routine Transport := do
  let memory ← load
  match memory.client.transport with
  | none => fault .nullTransport
  | some transport => return transport

/-- `ovnc__transport_recv` into a buffer of `len` bytes. What had arrived when it
failed is not looked at again. -/
def transportRecv (len : Nat) : Routine (List UInt8) := do
  let _ ← derefTransport
  let answer : RecvAnswer ← ask (Request.recv len)
  match answer with
  | .complete bytes => return bytes
  | .stopped _ error => fail error

/-- Store received bytes in the framebuffer's block. The block may be the application's own. -/
def storePixels (offset : Nat) (bytes : List UInt8) : Routine Unit :=
  modifyFramebuffer (fun framebuffer => { framebuffer with
    data := framebuffer.data.map (fun block =>
      { block with bytes := overwrite block.bytes offset bytes }) })

/-- `ovnc__transport_recv` into the framebuffer at `data + offset`. Bytes that
arrived before a failure stay in the framebuffer. -/
def transportRecvPixels (offset len : Nat) : Routine Unit := do
  let _ ← derefTransport
  let memory ← load
  faultIf (memory.client.framebuffer.capacity < offset + len) (.outOfBounds .pixels)
  let answer : RecvAnswer ← ask (Request.recv len)
  match answer with
  | .complete bytes => storePixels offset bytes
  | .stopped received error => do
    storePixels offset received
    fail error

/-- `ovnc__transport_send`. A send that fails has written a part of the bytes, and the caller is
told the error only. -/
def transportSend (data : List UInt8) : Routine Unit := do
  let _ ← derefTransport
  let answer : SendAnswer ← ask (Request.send data)
  match answer with
  | .complete => return ()
  | .stopped _ error => fail error

/-- `ovnc__transport_create`, storing the new transport in the client. The socket is the invalid
one until a connection is there. -/
def transportCreate : Routine Unit := do
  let allocated : Bool ← ask Request.callocTransport
  failIf (allocated = false) .nomem
  modifyClient (fun client => { client with transport := some ⟨invalidSocket⟩ })

/-- `ovnc__transport_connect` for the client's own transport. A failed
`ovnc__socket_connect` leaves the socket invalid. -/
def transportConnect : Routine Unit := do
  let _ ← derefTransport
  let memory ← load
  let client := memory.client
  let answer : Except Error Socket ←
    ask (Request.socketConnect client.host client.port client.connectTimeoutMs)
  match answer with
  | .ok sock => modifyClient (fun client => { client with transport := some ⟨sock⟩ })
  | .error error => fail error

/-- `ovnc__transport_destroy` of the client's transport, and the assignment of NULL
that follows it at every call. -/
def transportDestroy : Routine Unit := do
  let memory ← load
  match memory.client.transport with
  | none => return ()
  | some transport => do
    onlyIf (transport.sock ≠ invalidSocket) (do
      let _ ← ask (Request.socketClose transport.sock)
      return ())
    modifyClient (fun client => { client with transport := none })

/-! ## Callbacks -/

/-- `ovnc_client_disconnect`. On a client that is not connected it does nothing; otherwise it
leaves a client that cannot connect again. -/
def clientDisconnect : Routine Unit := do
  let memory ← load
  onlyIf (memory.client.state = .connected) (do
    transportDestroy
    modifyClient (fun client => { client with state := .disconnected })
    platformCleanup)

/-- Call a callback if it is set. The application may disconnect the client before
it returns. -/
def fire (call : Callback) : Routine Unit := do
  let memory ← load
  onlyIf (memory.client.callbacks.has call) (do
    let disconnects : Bool ← ask (Request.callback call)
    onlyIf disconnects clientDisconnect)

/-! ## Weakest preconditions of the transport operations

Each operation faults on a null transport. On any other, the request is asked with
the memory as it is, and its answer decides the outcome. -/

section Rules

variable {may : (request : Request) → Answer request → Prop} (memory : Memory)

/-- The transport is dereferenced, or found to be NULL. -/
theorem wp_derefTransport (post : List Step → Outcome Error Fault Transport → Memory → Prop) :
    derefTransport.wp may post memory ↔
      (memory.client.transport = none → post [] (.faulted .nullTransport) memory) ∧
        ∀ transport, memory.client.transport = some transport →
          post [] (.returned transport) memory := by
  unfold derefTransport
  simp only [bind_eq, wp_sequence, wp_load, continuing_returned]
  cases memory.client.transport <;> simp

/-- A receive finds the transport NULL, waits, returns the bytes asked for or fails with the error
it stopped with. -/
theorem wp_transportRecv (len : Nat)
    (post : List Step → Outcome Error Fault (List UInt8) → Memory → Prop) :
    (transportRecv len).wp may post memory ↔
      (memory.client.transport = none → post [] (.faulted .nullTransport) memory) ∧
        ∀ transport, memory.client.transport = some transport →
          post [] .waiting memory ∧
          (∀ bytes, may (.recv len) (.complete bytes) →
            post [⟨memory, .recv len, .complete bytes⟩] (.returned bytes) memory) ∧
          ∀ received error, may (.recv len) (.stopped received error) →
            post [⟨memory, .recv len, .stopped received error⟩] (.failed error) memory := by
  unfold transportRecv
  simp only [bind_eq, wp_sequence, wp_derefTransport, continuing_faulted, continuing_returned,
    wp_ask, continuing_waiting, List.nil_append]
  refine and_congr Iff.rfl (forall_congr' (fun transport => forall_congr' (fun _ => ?_)))
  refine and_congr Iff.rfl ⟨fun holds => ⟨?_, ?_⟩, fun holds answer allowed => ?_⟩
  · exact fun bytes allowed => holds (.complete bytes) allowed
  · exact fun received error allowed => holds (.stopped received error) allowed
  · cases answer with
    | complete bytes => exact holds.1 bytes allowed
    | stopped received error => exact holds.2 received error allowed

/-- A send finds the transport NULL, waits, returns when everything is written or fails with the
error it stopped with. -/
theorem wp_transportSend (data : List UInt8)
    (post : List Step → Outcome Error Fault Unit → Memory → Prop) :
    (transportSend data).wp may post memory ↔
      (memory.client.transport = none → post [] (.faulted .nullTransport) memory) ∧
        ∀ transport, memory.client.transport = some transport →
          post [] .waiting memory ∧
          (may (.send data) .complete →
            post [⟨memory, .send data, .complete⟩] (.returned ()) memory) ∧
          ∀ written error, may (.send data) (.stopped written error) →
            post [⟨memory, .send data, .stopped written error⟩] (.failed error) memory := by
  unfold transportSend
  simp only [bind_eq, wp_sequence, wp_derefTransport, continuing_faulted, continuing_returned,
    wp_ask, continuing_waiting, List.nil_append]
  refine and_congr Iff.rfl (forall_congr' (fun transport => forall_congr' (fun _ => ?_)))
  refine and_congr Iff.rfl ⟨fun holds => ⟨?_, ?_⟩, fun holds answer allowed => ?_⟩
  · exact fun allowed => holds .complete allowed
  · exact fun written error allowed => holds (.stopped written error) allowed
  · cases answer with
    | complete => exact holds.1 allowed
    | stopped written error => exact holds.2 written error allowed

/-- The framebuffer after bytes were stored in its block. Bytes past the block's end are
dropped, which no use of it does. -/
def Framebuffer.stored (framebuffer : Framebuffer) (offset : Nat) (bytes : List UInt8) :
    Framebuffer :=
  { framebuffer with data := framebuffer.data.map (fun block =>
      { block with bytes := overwrite block.bytes offset bytes }) }

/-- The memory after bytes were stored in the framebuffer's block. -/
def Memory.stored (memory : Memory) (offset : Nat) (bytes : List UInt8) : Memory :=
  { memory with client := { memory.client with
      framebuffer := memory.client.framebuffer.stored offset bytes } }

/-- A receive of pixels is out of bounds when its end is past the block's. Within the bounds it is
a receive whose bytes are stored at the offset. -/
theorem wp_transportRecvPixels (offset len : Nat)
    (post : List Step → Outcome Error Fault Unit → Memory → Prop) :
    (transportRecvPixels offset len).wp may post memory ↔
      (memory.client.transport = none → post [] (.faulted .nullTransport) memory) ∧
        ∀ transport, memory.client.transport = some transport →
          (memory.client.framebuffer.capacity < offset + len →
            post [] (.faulted (.outOfBounds .pixels)) memory) ∧
          (¬ memory.client.framebuffer.capacity < offset + len →
            post [] .waiting memory ∧
            (∀ bytes, may (.recv len) (.complete bytes) →
              post [⟨memory, .recv len, .complete bytes⟩] (.returned ())
                (memory.stored offset bytes)) ∧
            ∀ received error, may (.recv len) (.stopped received error) →
              post [⟨memory, .recv len, .stopped received error⟩] (.failed error)
                (memory.stored offset received)) := by
  unfold transportRecvPixels
  simp only [bind_eq, wp_sequence, wp_derefTransport, continuing_faulted, continuing_returned,
    wp_load, wp_faultIf, wp_ask, continuing_waiting, List.nil_append]
  refine and_congr Iff.rfl (forall_congr' (fun transport => forall_congr' (fun _ => ?_)))
  refine and_congr Iff.rfl (forall_congr' (fun _ => and_congr Iff.rfl ?_))
  refine ⟨fun holds => ⟨?_, ?_⟩, fun holds answer allowed => ?_⟩
  · exact fun bytes allowed => holds (.complete bytes) allowed
  · exact fun received error allowed => holds (.stopped received error) allowed
  · cases answer with
    | complete bytes => exact holds.1 bytes allowed
    | stopped received error => exact holds.2 received error allowed

end Rules

end OpenVnc
