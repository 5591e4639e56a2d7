import OpenVnc.Calls

/-!
# Primitives

The parts of the routines come down to a few primitives: transfers over the client's transport,
requests for storage, changes of the memory that leave its standing part alone, callbacks, and the
end of the connection. What a primitive does to the sockets and to the blocks of the heap is enough
to know what every routine but `ovnc_client_connect` does to them.
-/

namespace OpenVnc

open Interaction Interaction.Program

/-- The requests for storage, be it the library's or the application's. The requests that are
left concern the network and the application. -/
def Request.isStored : Request → Bool
  | .malloc _ | .calloc _ | .free _ | .allocFramebuffer _ => true
  | _ => false

/-- The primitives of the library. A change of the memory is one when the client's standing does
not see it; ending a connection is one as a whole. -/
inductive Primitive : (α : Type) → Routine α → Prop where
  | recv (len : Nat) : Primitive _ (transportRecv len)
  | recvPixels (offset len : Nat) : Primitive _ (transportRecvPixels offset len)
  | recvName (len : Nat) : Primitive _ (transportRecvName len)
  | send (data : List UInt8) : Primitive _ (transportSend data)
  | store (request : Request) (stored : request.isStored = true) :
      Primitive _ (ask request : Routine (Answer request))
  | change {change : Memory → Memory}
      (unseen : ∀ memory, (change memory).standing = memory.standing) :
      Primitive _ (update change)
  | fire (call : Callback) : Primitive _ (fire call)
  | disconnect : Primitive _ clientDisconnect

/-- A routine that is composed of primitives, whatever faults it commits itself. Faults are left
to the properties that are lifted over it. -/
abbrev Built {α : Type} (routine : Routine α) : Prop := Composed Primitive (fun _ => True) routine

variable {α : Type} {routine : Routine α}

/-- What is composed of parts that are composed of primitives is composed of primitives. One
traversal of a routine serves for all of its parts. -/
theorem built_of_parts {part : (α : Type) → Routine α → Prop} {commits : Fault → Prop}
    (parts : ∀ {α : Type} {routine : Routine α}, part α routine → Built routine)
    (composed : Composed part commits routine) : Built routine :=
  composed.refined (fun _ _ => trivial) parts

/-- Changing the framebuffer record keeps the standing of the client, as the record is no part of
it. -/
theorem modifyFramebuffer_built (change : Framebuffer → Framebuffer) :
    Built (modifyFramebuffer change) := .part (.change (fun _ => rfl))

/-- The application's allocator, whose answer is recorded before it is checked. -/
theorem callAllocFramebuffer_built : Built callAllocFramebuffer := by
  refine .load (fun memory => .sequence (.part (.store (.allocFramebuffer _) rfl))
    (fun answer => ?_))
  refine .sequence (modifyFramebuffer_built _) (fun _ => ?_)
  cases answer.1 with
  | none => exact .done ()
  | some error => exact .fail error

/-! ## Operations -/

/-- Operations that send are primitive. They are sends on the transport and the allocation of
what is sent. -/
theorem Transmission.built (operation : Transmission α routine) : Built routine := by
  cases operation with
  | send data => exact .part (.send data)
  | malloc size => exact .part (.store (.malloc size) rfl)

/-- So are those of the handshake. What they record about the server is not seen by the
standing. -/
theorem Exchange.built (operation : Exchange α routine) : Built routine := by
  cases operation with
  | transmit given => exact given.built
  | recv len => exact .part (.recv len)
  | recvName len => exact .part (.recvName len)
  | record change => exact .part (.change (fun _ => rfl))

/-- Storage for the framebuffer record is obtained and recorded. The record is no part of the
standing either. -/
theorem Allocation.built {changes : (Framebuffer → Framebuffer) → Prop}
    (operation : Allocation changes α routine) : Built routine := by
  cases operation with
  | modify given => exact modifyFramebuffer_built _
  | allocate => exact callAllocFramebuffer_built
  | calloc size => exact .part (.store (.calloc size) rfl)

/-- It is released where it is replaced. The release is a request like the allocation. -/
theorem Replacement.built {changes : (Framebuffer → Framebuffer) → Prop}
    (operation : Replacement changes α routine) : Built routine := by
  cases operation with
  | obtain given => exact given.built
  | free id => exact .part (.store (.free id) rfl)

/-- The rows of a rectangle are received one by one. -/
theorem RowOperation.built (operation : RowOperation α routine) : Built routine := by
  cases operation with
  | recvPixels offset len => exact .part (.recvPixels offset len)

/-- A callback that reports what was decoded is primitive. The parts below the callback are
given with their own proof. -/
theorem Reporting.built {part : (α : Type) → Routine α → Prop}
    (parts : ∀ {α : Type} {routine : Routine α}, part α routine → Built routine)
    (operation : Reporting part α routine) : Built routine := by
  cases operation with
  | decode given => exact parts given
  | fire call => exact .part (.fire call)

/-! ## Routines -/

/-- The framebuffer part of `do_initialization`. It is composed of the allocations below it. -/
theorem initFramebuffer_built (word : WordSize) : Built (initFramebuffer word) :=
  built_of_parts Allocation.built (initFramebuffer_allocation word)

/-- The parts of the handshake. -/
theorem HandshakePart.built {word : WordSize} (part : HandshakePart word α routine) :
    Built routine := by
  cases part with
  | exchange given => exact given.built
  | setUp => exact initFramebuffer_built word

/-- The parts of a message that leave the size of the framebuffer alone. A message of any type
is handled with these alone. -/
theorem Reception.built {word : WordSize} (part : Reception word α routine) : Built routine := by
  cases part with
  | recv len => exact .part (.recv len)
  | malloc size => exact .part (.store (.malloc size) rfl)
  | place left => exact .part (.change (fun _ => rfl))
  | raw rect =>
    exact built_of_parts (Reporting.built RowOperation.built) (decodeRaw_reporting word rect)
  | fire call => exact .part (.fire call)
  | disconnect => exact .part .disconnect

/-- The parts of a call that processes messages. A change of the size is one of the
replacements. -/
theorem MessagePart.built {word : WordSize} (part : MessagePart word α routine) :
    Built routine := by
  cases part with
  | receive given => exact given.built
  | resize rect =>
    exact built_of_parts (Reporting.built Replacement.built) (decodeDesktopSize_reporting word rect)

/-- The parts of a call that sends. Adopting a format is the one that is not a transmission. -/
theorem CallPart.built {word : WordSize} {call : ApiCall} (part : CallPart word call α routine) :
    Built routine := by
  cases part with
  | transmit given => exact given.built
  | adopt chosen usable =>
    exact built_of_parts Replacement.built (adoptPixelFormat_replacement word _)

/-- Every call but `ovnc_client_connect`. The two kinds of calls have been taken into parts
already. -/
theorem perform_built (word : WordSize) (bound : Nat) {call : ApiCall} (other : call ≠ .connect) :
    Built (perform word bound call) := by
  cases sends : call.sends with
  | false => exact built_of_parts MessagePart.built (perform_messages word bound other sends)
  | true => exact built_of_parts CallPart.built (perform_parts word bound sends)

/-- `ovnc_client_destroy` disconnects, and releases the pixels that the library owns. -/
theorem clientDestroy_built : Built clientDestroy := by
  refine .sequence (.part .disconnect) (fun _ => .load (fun memory => .onlyIf ?_))
  have released : Consists (Replacement AnyChange) (freePixels memory.client.framebuffer.data) :=
    freePixels_replacement _
  exact built_of_parts Replacement.built released

end OpenVnc
