import OpenVnc.Heap

/-!
# The library without the storage it manages

Forget which pointer a block belongs to, and forget that blocks are released: of the routines
that manage their storage exactly the routines of the library are left. An allocation becomes
the request for working storage that it is there, a transfer into a block or out of one becomes
the plain transfer, and every release disappears, on the paths that end in an error as well.
-/

namespace OpenVnc

open Interaction Interaction.Program

namespace Heap

/-- What the library asks for where a routine that manages storage issues an operation. A
release is answered at once, and a transfer is asked for without the block that it goes through.
-/
def forget : (operation : Operation) → Routine (Reply operation)
  | .asked request => ask request
  | .object _ => ask Request.callocTransport
  | .buffer _ size => ask (Request.malloc size)
  | .release _ => done ()
  | .recvInto _ len => ask (Request.recv len)
  | .sendFrom _ data => ask (Request.send data)

/-- Forgetting an operation introduces no error: a release is forgotten without one, and the
others are asked. -/
theorem forget_unfailing (operation : Operation) : Unfailing (forget operation) := by
  cases operation with
  | release pointer => trivial
  | asked | object | buffer | recvInto | sendFrom => exact fun _ => trivial

/-- Without its storage the one routine is the other. It is an equation, so that nothing of the
other routine is lost. -/
abbrev Forgets {α : Type} (managed : Managed α) (routine : Routine α) : Prop :=
  Erases forget managed routine

/-- A request that involves no block is asked as it is. -/
theorem asked_forgets (request : Request) :
    Forgets (ask (Operation.asked request) : Managed (Answer request)) (ask request) :=
  .ask (Operation.asked request)

/-- The allocation of a record is the request for one. Which pointer the record is stored in is
forgotten. -/
theorem object_forgets (pointer : Pointer) :
    Forgets (ask (Operation.object pointer) : Managed Bool)
      (ask Request.callocTransport : Routine Bool) := .ask (Operation.object pointer)

/-- The allocation of a buffer is the request for its storage. -/
theorem buffer_forgets (pointer : Pointer) (size : Nat) :
    Forgets (ask (Operation.buffer pointer size) : Managed Bool)
      (ask (Request.malloc size) : Routine Bool) := .ask (Operation.buffer pointer size)

/-- Nothing is left of a release, since no later behaviour depends on it. -/
theorem release_forgets (pointer : Pointer) :
    Forgets (release pointer : Managed Unit) (done ()) := .ask (Operation.release pointer)

/-- A routine that manages no blocks of its own is itself what is left. This is where the two
levels share their text. -/
theorem plain_forgets {α : Type} (routine : Routine α) : Forgets (plain routine) routine :=
  .embedded asked_forgets routine

/-- Nothing is left of a release that depends on a condition. -/
theorem releaseIf_forgets (condition : Prop) [Decidable condition] (pointer : Pointer) :
    Forgets (onlyIf condition (release pointer)) (done ()) :=
  .onlyIf_done (release_forgets pointer)

/-- An error that is passed on after a block was released. Which block it was is not seen in the
error. -/
theorem releasing_forgets {α : Type} (pointer : Pointer) (error : Error) :
    Forgets (sequence (release pointer) (fun _ => fail error) : Managed α) (fail error) :=
  .after (release_forgets pointer) (.fail error)

/-- Receiving into a block is receiving: the check of the pointer and of the room is forgotten.
The bytes are the same. -/
theorem recvInto_forgets (pointer : Pointer) (len : Nat) :
    Forgets (recvInto pointer len) (transportRecv len) := by
  apply (plain_forgets derefTransport).sequence
  intro _
  have receiving : Forgets (ask (Operation.recvInto pointer len) : Managed RecvAnswer)
      (ask (Request.recv len) : Routine RecvAnswer) := .ask (Operation.recvInto pointer len)
  apply receiving.sequence
  intro answer
  cases answer with
  | complete bytes => exact .done bytes
  | stopped received error => exact .fail error

/-- Sending from a block is sending. The block only tells where the bytes are. -/
theorem sendFrom_forgets (pointer : Pointer) (data : List UInt8) :
    Forgets (sendFrom pointer data) (transportSend data) := by
  apply (plain_forgets derefTransport).sequence
  intro _
  have sending : Forgets (ask (Operation.sendFrom pointer data) : Managed SendAnswer)
      (ask (Request.send data) : Routine SendAnswer) := .ask (Operation.sendFrom pointer data)
  apply sending.sequence
  intro answer
  cases answer with
  | complete => exact .done ()
  | stopped written error => exact .fail error

/-- `ovnc__transport_create` allocates the record and sets up its fields. -/
theorem transportCreate_forgets : Forgets transportCreate OpenVnc.transportCreate :=
  (object_forgets .transport).sequence (fun _ =>
    (Erases.failIf _).sequence (fun _ => plain_forgets _))

/-- `ovnc__transport_destroy` closes the socket. The release of the record, which comes last, is
forgotten. -/
theorem transportDestroy_forgets : Forgets transportDestroy OpenVnc.transportDestroy := by
  apply Erases.load
  intro memory
  cases memory.client.transport with
  | none => exact .done ()
  | some transport =>
    apply Erases.sequence
    · exact .onlyIf ((asked_forgets (.socketClose transport.sock)).sequence
        (fun _ => .done ()))
    · intro _
      exact .after (release_forgets .transport) (plain_forgets _)

/-- `ovnc_client_disconnect`, with its destruction of the transport. The transport's record is
released with it. -/
theorem clientDisconnect_forgets : Forgets clientDisconnect OpenVnc.clientDisconnect := by
  apply Erases.load
  intro memory
  apply Erases.onlyIf
  exact transportDestroy_forgets.sequence (fun _ =>
    (plain_forgets _).sequence (fun _ => plain_forgets _))

/-- A callback is called with its arguments; in which blocks they lie is forgotten. The
application may disconnect in it, which is erased as above. -/
theorem fire_forgets (call : Callback) : Forgets (fire call) (OpenVnc.fire call) := by
  apply Erases.load
  intro memory
  apply Erases.onlyIf
  exact (asked_forgets (.callback call)).sequence
    (fun _ => .onlyIf clientDisconnect_forgets)

/-! ## Messages from the server -/

/-- `ovnc__decode_raw` works on pixel storage, and has no blocks of its own. -/
theorem decodeRaw_forgets (word : WordSize) (rect : Rect) :
    Forgets (decodeRaw word rect) (OpenVnc.decodeRaw word rect) :=
  .load (fun _ => (plain_forgets _).sequence (fun _ => fire_forgets _))

/-- Nor has `decode_desktop_size`, with either allocator. -/
theorem decodeDesktopSize_forgets (word : WordSize) (rect : Rect) :
    Forgets (decodeDesktopSize word rect) (OpenVnc.decodeDesktopSize word rect) := by
  apply Erases.load
  intro memory
  apply Erases.ite
  · apply (plain_forgets _).sequence
    intro _
    exact (plain_forgets _).sequence (fun _ => fire_forgets _)
  · apply (plain_forgets (callocPixels _)).sequence
    intro newData
    cases newData with
    | none => exact .fail _
    | some block =>
      apply (plain_forgets (freePixels _)).sequence
      intro _
      exact (plain_forgets _).sequence (fun _ => fire_forgets _)

/-- `decode_cursor` releases its buffer on every path: when the receive fails, and after the
callback. -/
theorem decodeCursor_forgets (word : WordSize) (rect : Rect) :
    Forgets (decodeCursor word rect) (OpenVnc.decodeCursor word rect) := by
  apply Erases.load
  intro memory
  apply Erases.ite
  · exact fire_forgets _
  · apply (buffer_forgets .cursorBuf _).sequence
    intro allocated
    apply (Erases.failIf _).sequence
    intro _
    exact .settle forget_unfailing (recvInto_forgets _ _) (releasing_forgets _)
      (fun buf => .before (fire_forgets _) (release_forgets _))

/-- The dispatch on the encoding type of a rectangle. Each decoder has been compared with its
counterpart. -/
theorem decodeRect_forgets (word : WordSize) (rect : Rect) (encodingType : EncodingType) :
    Forgets (decodeRect word rect encodingType) (OpenVnc.decodeRect word rect encodingType) :=
  .ite (decodeRaw_forgets word rect)
    (.ite (decodeDesktopSize_forgets word rect) (.ite (decodeCursor_forgets word rect) (.fail _)))

/-- A pass of the rectangle loop. -/
theorem handleRect_forgets (word : WordSize) :
    Forgets (handleRect word) (OpenVnc.handleRect word) :=
  (plain_forgets _).sequence (fun _ => decodeRect_forgets word _ _)

/-- The rectangle loop, by induction on the rectangles that are left. -/
theorem handleRects_forgets (word : WordSize) (left : Nat) :
    Forgets (handleRects word left) (OpenVnc.handleRects word left) := by
  induction left with
  | zero => exact .done ()
  | succ left inductionHypothesis =>
    exact (Erases.update _).sequence (fun _ =>
      (handleRect_forgets word).sequence (fun _ => inductionHypothesis))

/-- `handle_fb_update`: the header, the rectangles, and the report that the update is complete.
It has no block either. -/
theorem handleFbUpdate_forgets (word : WordSize) :
    Forgets (handleFbUpdate word) (OpenVnc.handleFbUpdate word) :=
  (plain_forgets _).sequence (fun _ =>
    (handleRects_forgets word _).sequence (fun _ => fire_forgets _))

/-- The three arrays of a colour map are released whether or not all of them could be had, so that
the check is all that is left beside the callback. -/
theorem deliverColors_forgets (call : Callback) (red green blue : Bool) :
    Forgets (deliverColors call red green blue)
      (sequence (failIf (red = false ∨ green = false ∨ blue = false) .nomem)
        (fun _ => OpenVnc.fire call)) := by
  apply Erases.failIf_then
  · exact .after (releaseIf_forgets _ _) (.after (releaseIf_forgets _ _)
      (.after (releaseIf_forgets _ _) (releasing_forgets _ _)))
  · exact .before (fire_forgets call) (.after (release_forgets _)
      (.after (release_forgets _) (release_forgets _)))

/-- `handle_color_map_entries`, with its buffer and the three arrays. The block that was
received into is released on every path. -/
theorem handleColorMapEntries_forgets :
    Forgets handleColorMapEntries OpenVnc.handleColorMapEntries := by
  apply (plain_forgets _).sequence
  intro header
  apply (buffer_forgets .data _).sequence
  intro allocated
  apply (Erases.failIf _).sequence
  intro _
  apply Erases.settle forget_unfailing (recvInto_forgets _ _) (releasing_forgets _)
  intro data
  apply Erases.load
  intro memory
  refine .before (.onlyIf ?_) (release_forgets _)
  apply (buffer_forgets .red _).sequence
  intro red
  apply (buffer_forgets .green _).sequence
  intro green
  apply (buffer_forgets .blue _).sequence
  intro blue
  exact deliverColors_forgets _ red green blue

/-- `handle_server_cut_text`, with the block of a text that is not empty. An empty text has
none. -/
theorem handleServerCutText_forgets :
    Forgets handleServerCutText OpenVnc.handleServerCutText := by
  apply (plain_forgets _).sequence
  intro header
  apply Erases.ite
  · apply (buffer_forgets .text _).sequence
    intro allocated
    apply (Erases.failIf _).sequence
    intro _
    apply (Erases.faultIf _).sequence
    intro _
    apply Erases.settle forget_unfailing (recvInto_forgets _ _) (releasing_forgets _)
    intro text
    exact (Erases.faultIf _).sequence (fun _ => .before (fire_forgets _) (release_forgets _))
  · exact fire_forgets _

/-- `ovnc__recv_server_message`, whatever message arrives. The handlers have been compared one
by one. -/
theorem recvServerMessage_forgets (word : WordSize) :
    Forgets (recvServerMessage word) (OpenVnc.recvServerMessage word) := by
  apply (plain_forgets _).sequence
  intro msgType
  exact .ite (handleFbUpdate_forgets word) (.ite handleColorMapEntries_forgets
    (.ite (fire_forgets _) (.ite handleServerCutText_forgets (.fail _))))

/-! ## The handshake -/

/-- `read_failure_reason`, whose buffer need not be had: the reason is only skipped. So what is
left of it is the receive, or nothing. -/
theorem readFailureReason_forgets : Forgets readFailureReason OpenVnc.readFailureReason := by
  apply ((plain_forgets (transportRecv 4)).attempt forget_unfailing).sequence
  intro lenBuf
  cases lenBuf with
  | error error => exact .done error
  | ok lenBuf =>
    refine (Erases.onlyIf ?_).sequence (fun _ => .done _)
    apply (buffer_forgets .tmp _).sequence
    intro tmp
    apply Erases.onlyIf
    exact ((recvInto_forgets _ _).attempt forget_unfailing).sequence (fun _ => release_forgets _)

/-- `negotiate_security`, with the list of security types. It is released on every path after its
receive. -/
theorem negotiateSecurity_forgets : Forgets negotiateSecurity OpenVnc.negotiateSecurity := by
  apply Erases.load
  intro memory
  apply Erases.ite
  · apply (plain_forgets _).sequence
    intro buf
    apply Erases.ite
    · exact readFailureReason_forgets.sequence (fun error => .fail error)
    · exact (Erases.failIf _).sequence (fun _ => plain_forgets _)
  · apply (plain_forgets _).sequence
    intro countBuf
    apply Erases.ite
    · exact readFailureReason_forgets.sequence (fun error => .fail error)
    · apply (buffer_forgets .types _).sequence
      intro allocated
      apply (Erases.failIf _).sequence
      intro _
      apply Erases.settle forget_unfailing (recvInto_forgets _ _) (releasing_forgets _)
      intro types
      apply Erases.after (release_forgets _)
      apply (Erases.failIf _).sequence
      intro _
      exact (plain_forgets _).sequence (fun _ => plain_forgets _)

/-- `check_security_result` has no block but that of the reason. -/
theorem checkSecurityResult_forgets :
    Forgets checkSecurityResult OpenVnc.checkSecurityResult := by
  apply Erases.load
  intro memory
  apply Erases.ite
  · apply (plain_forgets _).sequence
    intro buf
    exact .onlyIf (readFailureReason_forgets.sequence (fun _ => .fail _))
  · exact .onlyIf ((plain_forgets _).sequence (fun _ => .failIf _))

/-- `ovnc__send_set_encodings`: the buffer of the message is released whether or not it could be
sent. -/
theorem sendSetEncodings_forgets (word : WordSize) (encodings : List EncodingType) :
    Forgets (sendSetEncodings word encodings) (OpenVnc.sendSetEncodings word encodings) := by
  apply (buffer_forgets .messageBuf _).sequence
  intro allocated
  apply (Erases.failIf _).sequence
  intro _
  apply (Erases.faultIf _).sequence
  intro _
  have sent := Erases.settle forget_unfailing
    (sendFrom_forgets .messageBuf (setEncodingsBuffer encodings)) (releasing_forgets .messageBuf)
    (fun _ => release_forgets .messageBuf)
  exact sent.trans (sequence_done _)

/-- `send_initial_messages`, of which only the encodings need a buffer. -/
theorem sendInitialMessages_forgets (word : WordSize) :
    Forgets (sendInitialMessages word) (OpenVnc.sendInitialMessages word) := by
  apply Erases.load
  intro memory
  apply (Erases.onSome (fun format => plain_forgets _)).sequence
  intro _
  exact .onSome (fun encodings => .onlyIf (sendSetEncodings_forgets word encodings))

/-- `ovnc__handshake`, part by part. Every part has been compared. -/
theorem handshake_forgets (word : WordSize) :
    Forgets (handshake word) (OpenVnc.handshake word) := by
  apply (plain_forgets _).sequence
  intro _
  apply negotiateSecurity_forgets.sequence
  intro _
  apply checkSecurityResult_forgets.sequence
  intro _
  exact (plain_forgets _).sequence (fun _ => sendInitialMessages_forgets word)

/-! ## The client API -/

/-- What `ovnc_client_connect` does when an attempt has failed. -/
theorem abandonConnect_forgets (error : Error) :
    Forgets (abandonConnect error) (OpenVnc.abandonConnect error) :=
  transportDestroy_forgets.sequence (fun _ => (plain_forgets _).sequence (fun _ => .fail error))

/-- The handshake of an attempt, and what follows its end. The client's own blocks are released
in neither case. -/
theorem connectHandshake_forgets (word : WordSize) :
    Forgets (connectHandshake word) (OpenVnc.connectHandshake word) := by
  apply ((handshake_forgets word).attempt forget_unfailing).sequence
  intro shaken
  cases shaken with
  | error error => exact abandonConnect_forgets error
  | ok value => exact plain_forgets _

/-- The dialling of an attempt, and what follows its end. -/
theorem connectTransport_forgets (word : WordSize) :
    Forgets (connectTransport word) (OpenVnc.connectTransport word) := by
  apply ((plain_forgets transportConnect).attempt forget_unfailing).sequence
  intro connected
  cases connected with
  | error error => exact abandonConnect_forgets error
  | ok value => exact connectHandshake_forgets word

/-- `ovnc_client_connect`. The transport is obtained in one piece, or the attempt fails for want
of it. -/
theorem clientConnect_forgets (word : WordSize) :
    Forgets (clientConnect word) (OpenVnc.clientConnect word) := by
  apply Erases.load
  intro memory
  apply (Erases.failIf _).sequence
  intro _
  apply (plain_forgets _).sequence
  intro _
  apply (transportCreate_forgets.attempt forget_unfailing).sequence
  intro created
  cases created with
  | error error => exact (plain_forgets _).sequence (fun _ => .fail error)
  | ok value => exact connectTransport_forgets word

/-- What `ovnc_client_process_message` and `ovnc_client_run` do when a message could not be
processed. -/
theorem tearDown_forgets (error : Error) :
    Forgets (tearDown error) (OpenVnc.tearDown error) :=
  (fire_forgets _).sequence (fun _ => clientDisconnect_forgets.sequence (fun _ => .fail error))

/-- The loop of `ovnc_client_run`, by induction on its bound. -/
theorem runLoop_forgets (word : WordSize) (bound : Nat) :
    Forgets (runLoop word bound) (OpenVnc.runLoop word bound) := by
  induction bound with
  | zero => exact .stalled
  | succ bound inductionHypothesis =>
    apply Erases.load
    intro memory
    refine .ite ?_ (.done ())
    apply ((recvServerMessage_forgets word).attempt forget_unfailing).sequence
    intro received
    cases received with
    | error error => exact tearDown_forgets error
    | ok value => exact inductionHypothesis

/-- Without its storage a call is the call of the library. This holds for each call, whatever
the arguments. -/
theorem perform_forgets (word : WordSize) (bound : Nat) (call : ApiCall) :
    Forgets (perform word bound call) (OpenVnc.perform word bound call) := by
  cases call with
  | connect => exact clientConnect_forgets word
  | disconnect => exact clientDisconnect_forgets
  | processMessage =>
    apply (plain_forgets _).sequence
    intro _
    apply ((recvServerMessage_forgets word).attempt forget_unfailing).sequence
    intro received
    cases received with
    | error error => exact tearDown_forgets error
    | ok value => exact .done ()
  | run => exact (plain_forgets _).sequence (fun _ => runLoop_forgets word bound)
  | requestUpdate | sendKeyEvent | sendPointerEvent | sendCutText | setPixelFormat =>
    exact plain_forgets _
  | setEncodings encodings =>
    cases encodings with
    | none => exact .fail _
    | some encodings =>
      exact (plain_forgets _).sequence (fun _ => sendSetEncodings_forgets word encodings)

/-- `ovnc_client_destroy` disconnects and releases the pixels. The releases of the record's other
blocks are forgotten. -/
theorem clientDestroy_forgets : Forgets clientDestroy OpenVnc.clientDestroy := by
  apply clientDisconnect_forgets.sequence
  intro _
  apply Erases.load
  intro memory
  refine .before (.onlyIf (plain_forgets _)) (.after (releaseIf_forgets _ _) ?_)
  exact .after (releaseIf_forgets _ _) (.after (release_forgets _) (release_forgets _))

end Heap

end OpenVnc
