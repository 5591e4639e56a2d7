import OpenVnc.Process
import OpenVnc.Interaction.Compositions

/-!
# What the routines are composed of

Each routine is taken apart here, once: into transfers over the client's transport, requests for
storage, changes of the connection information and of the framebuffer record, callbacks, and the
end of the connection. Three routines work on pixel storage as a whole and stay parts of those
that use them, since what they keep is not what their own parts keep. What a routine keeps follows
from what its parts keep.
-/

namespace OpenVnc

open Interaction Interaction.Program

/-! ## The operations -/

/-- Operations that send, and the storage for what is sent. They leave the memory as it is. -/
inductive Transmission : (α : Type) → Routine α → Prop where
  | send (data : List UInt8) : Transmission Unit (transportSend data)
  | malloc (size : Nat) : Transmission Bool (ask (Request.malloc size))

/-- Operations by which the handshake exchanges bytes with the server and records what it is
told. -/
inductive Exchange : (α : Type) → Routine α → Prop where
  | transmit {α : Type} {routine : Routine α} (given : Transmission α routine) : Exchange α routine
  | recv (len : Nat) : Exchange (List UInt8) (transportRecv len)
  | recvName (len : Nat) : Exchange Unit (transportRecvName len)
  | record (change : ConnectionInfo → ConnectionInfo) : Exchange Unit (modifyConnInfo change)

/-- Operations that give the framebuffer record storage and change it in the given ways. The
change is part of the operation, so that what is known of it can be used where the operation is
looked at. -/
inductive Allocation (changes : (Framebuffer → Framebuffer) → Prop) :
    (α : Type) → Routine α → Prop where
  | modify {change : Framebuffer → Framebuffer} (given : changes change) :
      Allocation changes Unit (modifyFramebuffer change)
  | allocate : Allocation changes Unit callAllocFramebuffer
  | calloc (size : Nat) : Allocation changes (Option Nat) (ask (Request.calloc size))

/-- Operations that replace its storage. The block that was there is released besides. -/
inductive Replacement (changes : (Framebuffer → Framebuffer) → Prop) :
    (α : Type) → Routine α → Prop where
  | obtain {α : Type} {routine : Routine α} (given : Allocation changes α routine) :
      Replacement changes α routine
  | free (id : Nat) : Replacement changes Unit (ask (Request.free id))

/-- Operations of the rows of a Raw rectangle. There is one kind, a receive into the pixels. -/
inductive RowOperation : (α : Type) → Routine α → Prop where
  | recvPixels (offset len : Nat) : RowOperation Unit (transportRecvPixels offset len)

/-- Operations of a decoder, and the callback that reports what was decoded. The callback is one
of those that report a rectangle. -/
inductive Reporting (part : (α : Type) → Routine α → Prop) : (α : Type) → Routine α → Prop where
  | decode {α : Type} {routine : Routine α} (given : part α routine) : Reporting part α routine
  | fire (call : Callback) : Reporting part Unit (fire call)

/-- Parts of the handshake. The framebuffer is a part of its own, since it is all that the
handshake does about storage. -/
inductive HandshakePart (word : WordSize) : (α : Type) → Routine α → Prop where
  | exchange {α : Type} {routine : Routine α} (given : Exchange α routine) :
      HandshakePart word α routine
  | setUp : HandshakePart word Unit (initFramebuffer word)

/-- Parts of the handling of a message that leave the size of the framebuffer alone. Raw
rectangles count as a part, and so does the end of the connection. -/
inductive Reception (word : WordSize) : (α : Type) → Routine α → Prop where
  | recv (len : Nat) : Reception word (List UInt8) (transportRecv len)
  | malloc (size : Nat) : Reception word Bool (ask (Request.malloc size))
  | place (left : Nat) :
      Reception word Unit (update (fun memory => { memory with pendingRects := left }))
  | raw (rect : Rect) : Reception word Unit (decodeRaw word rect)
  | fire (call : Callback) : Reception word Unit (fire call)
  | disconnect : Reception word Unit clientDisconnect

/-- Parts of the calls that process messages or disconnect. The change of the size is what they
have besides. -/
inductive MessagePart (word : WordSize) : (α : Type) → Routine α → Prop where
  | receive {α : Type} {routine : Routine α} (given : Reception word α routine) :
      MessagePart word α routine
  | resize (rect : Rect) : MessagePart word Unit (decodeDesktopSize word rect)

/-- Parts of a call that sends. A format that is adopted is the one the call sets, and its size
is supported. -/
inductive CallPart (word : WordSize) (call : ApiCall) : (α : Type) → Routine α → Prop where
  | transmit {α : Type} {routine : Routine α} (given : Transmission α routine) :
      CallPart word call α routine
  | adopt {format : PixelFormat} (chosen : call = .setPixelFormat (some format))
      (usable : ¬ format.bytesPerPixel < 0) :
      CallPart word call Unit (adoptPixelFormat word format)

/-- The faults that the routines commit outside their parts: a buffer of the library, or one of
the application's, has too little room. Pixels are received by a part. -/
def Fault.OfBuffer (fault : Fault) : Prop :=
  ∃ buffer, buffer ≠ .pixels ∧ fault = .outOfBounds buffer

/-- The overrun of any buffer but the pixels is such a fault. -/
theorem Fault.ofBuffer {buffer : Buffer} (other : buffer ≠ .pixels) :
    (Fault.outOfBounds buffer).OfBuffer := ⟨buffer, other, rfl⟩

/-- A routine composed of the given parts, which may overrun such a buffer itself. The buffers
are those a routine fills itself; the pixels are left to its parts. -/
abbrev Comprises (part : (α : Type) → Routine α → Prop) {α : Type} (routine : Routine α) : Prop :=
  Composed part Fault.OfBuffer routine

/-- A routine composed of the given parts, which commits no fault outside them. It has no buffer
of its own. -/
abbrev Consists (part : (α : Type) → Routine α → Prop) {α : Type} (routine : Routine α) : Prop :=
  Composed part (fun _ => False) routine

section Widening

variable {part wider : (α : Type) → Routine α → Prop} {α : Type} {routine : Routine α}
  (included : ∀ {α : Type} {routine : Routine α}, part α routine → wider α routine)
include included

/-- What is composed of parts of one kind is composed of those of a wider kind. The routine is
not looked into again. -/
theorem Comprises.widened (comprises : Comprises part routine) : Comprises wider routine :=
  comprises.refined (fun _ => id) (fun given => .part (included given))

/-- The same for routines that commit no fault outside their parts. -/
theorem Consists.widened (consists : Consists part routine) : Consists wider routine :=
  consists.refined (fun _ => id) (fun given => .part (included given))

end Widening

/-! ## Sending -/

/-- A single send is a transmission. -/
theorem transportSend_transmission (data : List UInt8) :
    Comprises Transmission (transportSend data) := .part (.send data)

/-- `ovnc__send_set_encodings`. The buffer is filled before it is sent, and filling it is where
it may be overrun. -/
theorem sendSetEncodings_transmission (word : WordSize) (encodings : List EncodingType) :
    Comprises Transmission (sendSetEncodings word encodings) := by
  refine .sequence (.part (.malloc _)) (fun allocated => .sequence (.failIf _) (fun _ => ?_))
  exact .sequence (.faultIf (Fault.ofBuffer nofun)) (fun _ => transportSend_transmission _)

/-- `ovnc__send_client_cut_text`. The text is sent after its header, and reading it is where the
application's array may be overrun. -/
theorem sendClientCutText_transmission (text : List UInt8) (length : UInt32) :
    Comprises Transmission (sendClientCutText text length) := by
  refine .sequence (transportSend_transmission _) (fun _ => .onlyIf ?_)
  exact .sequence (.faultIf (Fault.ofBuffer nofun)) (fun _ => transportSend_transmission _)

/-- `send_initial_messages`. Each of the two is sent under a condition. -/
theorem sendInitialMessages_transmission (word : WordSize) :
    Comprises Transmission (sendInitialMessages word) := by
  refine .load (fun memory => .sequence (.onSome (fun format => ?_)) (fun _ => ?_))
  · exact transportSend_transmission _
  · exact .onSome (fun encodings => .onlyIf (sendSetEncodings_transmission word encodings))

/-! ## The handshake -/

/-- A single receive is an exchange. -/
theorem transportRecv_exchange (len : Nat) : Comprises Exchange (transportRecv len) :=
  .part (.recv len)

/-- So is a single send. -/
theorem transportSend_exchange (data : List UInt8) : Comprises Exchange (transportSend data) :=
  (transportSend_transmission data).widened .transmit

/-- So is the allocation of a buffer. -/
theorem malloc_exchange (size : Nat) :
    Comprises Exchange (ask (Request.malloc size) : Routine Bool) :=
  .part (.transmit (.malloc size))

/-- So is a change of the connection information. -/
theorem modifyConnInfo_exchange (change : ConnectionInfo → ConnectionInfo) :
    Comprises Exchange (modifyConnInfo change) := .part (.record change)

/-- `negotiate_version`. -/
theorem negotiateVersion_exchange : Comprises Exchange negotiateVersion := by
  refine .sequence (transportRecv_exchange 12) (fun buf => .sequence (.failIf _) (fun _ => ?_))
  refine .sequence (.failIf _) (fun _ => .sequence (modifyConnInfo_exchange _) (fun _ => ?_))
  exact transportSend_exchange _

/-- `read_failure_reason`. -/
theorem readFailureReason_exchange : Comprises Exchange readFailureReason := by
  refine .sequence (.attempt (transportRecv_exchange 4)) (fun lenBuf => ?_)
  cases lenBuf with
  | error error => exact .done error
  | ok lenBuf =>
    refine .sequence (.onlyIf ?_) (fun _ => .done _)
    refine .sequence (malloc_exchange _) (fun tmp => .onlyIf ?_)
    exact .sequence (.attempt (transportRecv_exchange _)) (fun _ => .done ())

/-- `negotiate_security`. Every branch ends with an exchange or with an error. -/
theorem negotiateSecurity_exchange : Comprises Exchange negotiateSecurity := by
  refine .load (fun memory => .ite (fun _ => ?_) (fun _ => ?_))
  · refine .sequence (transportRecv_exchange 4) (fun buf => .ite (fun _ => ?_) (fun _ => ?_))
    · exact .sequence readFailureReason_exchange (fun error => .fail error)
    · exact .sequence (.failIf _) (fun _ => modifyConnInfo_exchange _)
  · refine .sequence (transportRecv_exchange 1) (fun countBuf => .ite (fun _ => ?_) (fun _ => ?_))
    · exact .sequence readFailureReason_exchange (fun error => .fail error)
    · refine .sequence (malloc_exchange _) (fun allocated => .sequence (.failIf _) (fun _ => ?_))
      refine .sequence (transportRecv_exchange _) (fun types => .sequence (.failIf _) (fun _ => ?_))
      exact .sequence (transportSend_exchange _) (fun _ => modifyConnInfo_exchange _)

/-- `check_security_result`. Whether there is a result depends on what has been recorded. -/
theorem checkSecurityResult_exchange : Comprises Exchange checkSecurityResult := by
  refine .load (fun memory => .ite (fun _ => ?_) (fun _ => .onlyIf ?_))
  · refine .sequence (transportRecv_exchange 4) (fun buf => .onlyIf ?_)
    exact .sequence readFailureReason_exchange (fun _ => .fail _)
  · exact .sequence (transportRecv_exchange 4) (fun buf => .failIf _)

/-- The terminator of the name is checked against the array before it is stored. -/
theorem terminateName_exchange (index : Nat) (truncated : Bool) :
    Comprises Exchange (terminateName index truncated) :=
  .sequence (.faultIf (Fault.ofBuffer nofun)) (fun _ => modifyConnInfo_exchange _)

/-- The loop that skips, by induction on what is left to skip. -/
theorem discardName_exchange (skip : Nat) : Comprises Exchange (discardName skip) := by
  induction skip using Nat.strongRecOn with
  | ind skip inductionHypothesis =>
    rw [discardName]
    split
    · exact .sequence (transportRecv_exchange _) (fun _ => inductionHypothesis _ (by omega))
    · exact .done ()

/-- The name part of `do_initialization`. A long name is cut and skipped, a short one is kept.
-/
theorem receiveName_exchange (nameLen : Nat) : Comprises Exchange (receiveName nameLen) := by
  have received (len : Nat) : Comprises Exchange (transportRecvName len) := .part (.recvName len)
  refine .ite (fun _ => .ite (fun _ => ?_) (fun _ => ?_)) (fun _ => terminateName_exchange _ _)
  · refine .sequence (received _) (fun _ => ?_)
    exact .sequence (terminateName_exchange _ _) (fun _ => discardName_exchange _)
  · exact .sequence (received _) (fun _ => terminateName_exchange _ _)

section Handshakes

variable {word : WordSize}

/-- What only exchanges bytes is composed of parts of the handshake. -/
theorem Comprises.handshake {α : Type} {routine : Routine α}
    (comprises : Comprises Exchange routine) : Comprises (HandshakePart word) routine :=
  comprises.widened .exchange

variable (word)

/-- `do_initialization`, in which the framebuffer is set up last. The parts before it only
exchange bytes. -/
theorem doInitialization_parts : Comprises (HandshakePart word) (doInitialization word) := by
  refine .load (fun memory => .sequence (transportSend_exchange _).handshake (fun _ => ?_))
  refine .sequence (transportRecv_exchange 24).handshake (fun header => ?_)
  refine .sequence (modifyConnInfo_exchange _).handshake (fun _ => ?_)
  exact .sequence (receiveName_exchange _).handshake (fun _ => .part .setUp)

/-- `ovnc__handshake`. No part comes back to what an earlier one has recorded. -/
theorem handshake_parts : Comprises (HandshakePart word) (handshake word) := by
  refine .sequence negotiateVersion_exchange.handshake (fun _ => ?_)
  refine .sequence negotiateSecurity_exchange.handshake (fun _ => ?_)
  refine .sequence checkSecurityResult_exchange.handshake (fun _ => ?_)
  refine .sequence (doInitialization_parts word) (fun _ => ?_)
  exact ((sendInitialMessages_transmission word).widened .transmit).handshake

end Handshakes

/-! ## Pixel storage -/

section Storage

variable {changes : (Framebuffer → Framebuffer) → Prop}

/-- `calloc` of the pixels, whose answer becomes a block of zeros. -/
theorem callocPixels_allocation (size : Nat) :
    Consists (Allocation changes) (callocPixels size) :=
  .sequence (.part (.calloc size)) (fun _ => .done _)

/-- What only obtains storage replaces none. -/
theorem Consists.replacement {α : Type} {routine : Routine α}
    (consists : Consists (Allocation changes) routine) :
    Consists (Replacement changes) routine := consists.widened .obtain

/-- The release of the old pixels, if there are any. -/
theorem freePixels_replacement (data : Option Block) :
    Consists (Replacement changes) (freePixels data) := by
  cases data with
  | none => exact .done ()
  | some block => exact .sequence (.part (.free block.id)) (fun _ => .done ())

end Storage

/-- Any change of the record. It is used where nothing has to be known of the change. -/
abbrev AnyChange (_ : Framebuffer → Framebuffer) : Prop := True

/-- A change of the record that leaves the size of the framebuffer. -/
structure SameExtent (change : Framebuffer → Framebuffer) : Prop where
  width : ∀ framebuffer, (change framebuffer).width = framebuffer.width
  height : ∀ framebuffer, (change framebuffer).height = framebuffer.height

/-- The framebuffer part of `do_initialization`, which releases nothing. The record is given its
size before its storage. -/
theorem initFramebuffer_allocation (word : WordSize) :
    Consists (Allocation AnyChange) (initFramebuffer word) := by
  have modified (change : Framebuffer → Framebuffer) :
      Consists (Allocation AnyChange) (modifyFramebuffer change) := .part (.modify trivial)
  refine .load (fun memory => .sequence (modified _) (fun _ => ?_))
  refine .sequence (.failIf _) (fun _ => .sequence (modified _) (fun _ => ?_))
  refine .ite (fun _ => .part .allocate) (fun _ => ?_)
  refine .sequence (callocPixels_allocation _) (fun newData => ?_)
  exact .sequence (modified _) (fun _ => .failIf _)

/-- `ovnc_client_set_pixel_format` after its message. When the bytes per pixel stay the same
there is no new storage. -/
theorem adoptPixelFormat_replacement (word : WordSize) (format : PixelFormat) :
    Consists (Replacement SameExtent) (adoptPixelFormat word format) := by
  have modified {change : Framebuffer → Framebuffer} (same : SameExtent change) :
      Consists (Replacement SameExtent) (modifyFramebuffer change) :=
    .part (.obtain (.modify same))
  refine .load (fun memory => .sequence (modified ⟨fun _ => rfl, fun _ => rfl⟩) (fun _ => ?_))
  refine .onlyIf (.sequence (modified ⟨fun _ => rfl, fun _ => rfl⟩) (fun _ => ?_))
  refine .ite (fun _ => .part (.obtain .allocate)) (fun _ => ?_)
  refine .sequence ((callocPixels_allocation _).widened .obtain) (fun newData => ?_)
  cases newData with
  | none => exact .fail _
  | some block =>
    exact .sequence (freePixels_replacement _)
      (fun _ => modified ⟨fun _ => rfl, fun _ => rfl⟩)

/-! ## Messages from the server -/

/-- The row loop of `ovnc__decode_raw`. It goes by induction on the rows that are left. -/
theorem decodeRawRows_operations (word : WordSize) (rect : Rect)
    (bpp rowBytes fbStride y rows : Nat) :
    Consists RowOperation (decodeRawRows word rect bpp rowBytes fbStride y rows) := by
  induction rows generalizing y with
  | zero => exact .done ()
  | succ rows inductionHypothesis =>
    refine .load (fun memory => .sequence (.failIf _) (fun _ => ?_))
    exact .sequence (.part (.recvPixels _ _)) (fun _ => inductionHypothesis (y + 1))

/-- `ovnc__decode_raw`. -/
theorem decodeRaw_reporting (word : WordSize) (rect : Rect) :
    Consists (Reporting RowOperation) (decodeRaw word rect) := by
  refine .load (fun memory => .sequence ?_ (fun _ => .part (.fire _)))
  exact (decodeRawRows_operations word rect _ _ _ _ _).widened .decode

/-- `decode_desktop_size`, with either allocator. The record is changed before the callback in
either case. -/
theorem decodeDesktopSize_reporting (word : WordSize) (rect : Rect) :
    Consists (Reporting (Replacement AnyChange)) (decodeDesktopSize word rect) := by
  have replaced {α : Type} {routine : Routine α}
      (consists : Consists (Replacement AnyChange) routine) :
      Consists (Reporting (Replacement AnyChange)) routine := consists.widened .decode
  have modified (change : Framebuffer → Framebuffer) :
      Consists (Replacement AnyChange) (modifyFramebuffer change) :=
    .part (.obtain (.modify trivial))
  refine .load (fun memory => .ite (fun _ => ?_) (fun _ => ?_))
  · refine .sequence (replaced (modified _)) (fun _ => ?_)
    exact .sequence (replaced (.part (.obtain .allocate))) (fun _ => .part (.fire _))
  · refine .sequence (replaced ((callocPixels_allocation _).widened .obtain)) (fun newData => ?_)
    cases newData with
    | none => exact .fail _
    | some block =>
      refine .sequence (replaced (freePixels_replacement _)) (fun _ => ?_)
      exact .sequence (replaced (modified _)) (fun _ => .part (.fire _))

section Messages

variable (word : WordSize)

/-- A receive into a buffer of the handler. -/
theorem transportRecv_reception (len : Nat) : Comprises (Reception word) (transportRecv len) :=
  .part (.recv len)

/-- The allocation of such a buffer. -/
theorem malloc_reception (size : Nat) :
    Comprises (Reception word) (ask (Request.malloc size) : Routine Bool) := .part (.malloc size)

/-- A callback of the handler. -/
theorem fire_reception (call : Callback) : Comprises (Reception word) (fire call) :=
  .part (.fire call)

/-- `decode_cursor`. A cursor without any byte needs no buffer. -/
theorem decodeCursor_reception (rect : Rect) :
    Comprises (Reception word) (decodeCursor word rect) := by
  refine .load (fun memory => .ite (fun _ => fire_reception word _) (fun _ => ?_))
  refine .sequence (malloc_reception word _) (fun allocated => .sequence (.failIf _) (fun _ => ?_))
  exact .sequence (transportRecv_reception word _) (fun _ => fire_reception word _)

/-- `handle_color_map_entries`. -/
theorem handleColorMapEntries_reception : Comprises (Reception word) handleColorMapEntries := by
  have obtained (size : Nat) := malloc_reception word size
  refine .sequence (transportRecv_reception word 5) (fun header => ?_)
  refine .sequence (obtained _) (fun allocated => .sequence (.failIf _) (fun _ => ?_))
  refine .sequence (transportRecv_reception word _) (fun data => .load (fun memory => .onlyIf ?_))
  refine .sequence (obtained _) (fun red => .sequence (obtained _) (fun green => ?_))
  refine .sequence (obtained _) (fun blue => .sequence (.failIf _) (fun _ => ?_))
  exact fire_reception word _

/-- `handle_server_cut_text`. -/
theorem handleServerCutText_reception : Comprises (Reception word) handleServerCutText := by
  refine .sequence (transportRecv_reception word 7) (fun header => .ite (fun _ => ?_)
    (fun _ => fire_reception word _))
  refine .sequence (malloc_reception word _) (fun allocated => .sequence (.failIf _) (fun _ => ?_))
  refine .sequence (.faultIf (Fault.ofBuffer nofun)) (fun _ => ?_)
  refine .sequence (transportRecv_reception word _) (fun text => ?_)
  exact .sequence (.faultIf (Fault.ofBuffer nofun)) (fun _ => fire_reception word _)

/-- What follows a message that could not be processed. -/
theorem tearDown_reception (error : Error) :
    Comprises (Reception word) (tearDown error : Routine Unit) :=
  .sequence (fire_reception word _) (fun _ => .sequence (.part .disconnect) (fun _ => .fail error))

variable {word}

/-- Parts that leave the size alone are parts of a message. -/
theorem Comprises.message {α : Type} {routine : Routine α}
    (comprises : Comprises (Reception word) routine) : Comprises (MessagePart word) routine :=
  comprises.widened .receive

variable (word)

/-- One pass of the rectangle loop. -/
theorem handleRect_parts : Comprises (MessagePart word) (handleRect word) := by
  refine .sequence (transportRecv_reception word 12).message (fun rectHeader => ?_)
  refine .ite (fun _ => .part (.receive (.raw _))) (fun _ => ?_)
  refine .ite (fun _ => .part (.resize _)) (fun _ => ?_)
  exact .ite (fun _ => (decodeCursor_reception word _).message) (fun _ => .fail _)

/-- The rectangle loop, by induction on the rectangles that are left. The position in it is
recorded before each rectangle. -/
theorem handleRects_parts (left : Nat) : Comprises (MessagePart word) (handleRects word left) := by
  induction left with
  | zero => exact .done ()
  | succ left inductionHypothesis =>
    refine .sequence (.part (.receive (.place left))) (fun _ => ?_)
    exact .sequence (handleRect_parts word) (fun _ => inductionHypothesis)

/-- `ovnc__recv_server_message`. The type that was received decides among the handlers. -/
theorem recvServerMessage_parts : Comprises (MessagePart word) (recvServerMessage word) := by
  have fired (call : Callback) := (fire_reception word call).message
  refine .sequence (transportRecv_reception word 1).message (fun msgType => ?_)
  refine .ite (fun _ => ?_) (fun _ => ?_)
  · refine .sequence (transportRecv_reception word 3).message (fun header => ?_)
    exact .sequence (handleRects_parts word _) (fun _ => fired _)
  refine .ite (fun _ => (handleColorMapEntries_reception word).message) (fun _ => ?_)
  refine .ite (fun _ => fired _) (fun _ => ?_)
  exact .ite (fun _ => (handleServerCutText_reception word).message) (fun _ => .fail _)

end Messages

/-! ## The calls of the API -/

/-- The guard of a call asks for nothing. -/
theorem requireConnected_composed (part : (α : Type) → Routine α → Prop) :
    Comprises part requireConnected := .load (fun _ => .failIf _)

/-- The loop of `ovnc_client_run`, by induction on its bound. An iteration is the handling of
one message, and the loop ends with an error of it. -/
theorem runLoop_parts (word : WordSize) (bound : Nat) :
    Comprises (MessagePart word) (runLoop word bound) := by
  induction bound with
  | zero => exact .stalled
  | succ bound inductionHypothesis =>
    refine .load (fun memory => .ite (fun _ => ?_) (fun _ => .done ()))
    refine .sequence (.attempt (recvServerMessage_parts word)) (fun received => ?_)
    cases received with
    | ok => exact inductionHypothesis
    | error error => exact (tearDown_reception word error).message

/-- The calls that neither connect nor send. They process messages or disconnect. -/
theorem perform_messages (word : WordSize) (bound : Nat) {call : ApiCall}
    (connects : call ≠ .connect) (unsent : call.sends = false) :
    Comprises (MessagePart word) (perform word bound call) := by
  cases call with
  | connect => exact absurd rfl connects
  | disconnect => exact .part (.receive .disconnect)
  | processMessage =>
    refine .sequence (requireConnected_composed _) (fun _ => ?_)
    refine .sequence (.attempt (recvServerMessage_parts word)) (fun received => ?_)
    cases received with
    | ok => exact .done ()
    | error error => exact (tearDown_reception word error).message
  | run => exact .sequence (requireConnected_composed _) (fun _ => runLoop_parts word bound)
  | requestUpdate | sendKeyEvent | sendPointerEvent | sendCutText | setPixelFormat
  | setEncodings => cases unsent

/-- The calls that send. All of them send; one of them goes on to adopt a format. -/
theorem perform_parts (word : WordSize) (bound : Nat) {call : ApiCall}
    (sends : call.sends = true) : Comprises (CallPart word call) (perform word bound call) := by
  have transmitted {α : Type} {routine : Routine α} (comprises : Comprises Transmission routine) :
      Comprises (CallPart word call) routine := comprises.widened .transmit
  cases call with
  | connect | disconnect | processMessage | run => exact absurd sends (by decide)
  | requestUpdate rect incremental =>
    exact .sequence (requireConnected_composed _)
      (fun _ => .load (fun _ => transmitted (transportSend_transmission _)))
  | sendKeyEvent | sendPointerEvent =>
    exact .sequence (requireConnected_composed _)
      (fun _ => transmitted (transportSend_transmission _))
  | sendCutText text length =>
    refine .sequence (requireConnected_composed _) (fun _ => ?_)
    cases text with
    | none => exact .fail _
    | some text => exact transmitted (sendClientCutText_transmission text length)
  | setPixelFormat format =>
    cases format with
    | none => exact .fail _
    | some format =>
      refine .sequence (requireConnected_composed _) (fun _ => .guarded (fun usable => ?_))
      exact .sequence (transmitted (transportSend_transmission _))
        (fun _ => .part (.adopt rfl usable))
  | setEncodings encodings =>
    cases encodings with
    | none => exact .fail _
    | some encodings =>
      exact .sequence (requireConnected_composed _)
        (fun _ => transmitted (sendSetEncodings_transmission word encodings))

end OpenVnc
