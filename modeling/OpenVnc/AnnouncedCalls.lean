import OpenVnc.AnnouncedMessages

/-!
# The announcements before a call's allocations

The handshake and the operations of the API, after the messages. What is awaited in the
handshake depends on the version that was recorded, and the size of the first framebuffer on
what ServerInit left.
-/

namespace OpenVnc

open Interaction Interaction.Program

/-! ## The handshake -/

section Handshake

variable {word : WordSize} {memory : Memory}

/-- A reason of no length is not asked for; whatever is received, an error follows. What is
awaited does not matter, as the error ends the handshake. -/
theorem readFailureReason_foretells {awaited : Awaited} :
    Foretells word awaited readFailureReason memory (fun _ _ _ => True) := by
  apply (transportRecv_foretells 4).attempt.sequence
  intro lenBuf awaited' final _
  cases lenBuf with
  | error error => exact .done trivial
  | ok lenBuf =>
    apply Foretold.sequence
    case middle => exact fun _ _ _ => True
    case begins =>
      apply Foretold.onlyIf
      · intro positive
        have some : (readU32 lenBuf).toNat ≠ 0 := Nat.ne_of_gt positive
        apply (malloc_foretells some).sequence
        rintro tmp _ _ ⟨rfl, rfl⟩
        apply Foretold.onlyIf
        · intro _
          apply (transportRecv_foretells _).attempt.sequence
          intro _ _ _ _
          exact .done trivial
        · intro _
          trivial
      · intro _
        trivial
    case continues =>
      intro _ _ _ _
      exact .done trivial

/-- `negotiate_version` awaits the version first, and then the security messages. The version it
records is the one by which the messages that come next are told apart. -/
theorem negotiateVersion_foretells :
    Foretells word .version negotiateVersion memory (fun _ awaited' _ => awaited' = .security) := by
  apply (transportRecv_foretells 12).sequence
  rintro buf _ _ ⟨-, -, rfl, rfl⟩
  apply Foretold.failIf
  intro _
  apply Foretold.failIf
  intro _
  apply Foretold.sequence
  case middle => exact fun _ awaited' _ => awaited' = .security
  case begins => exact .update rfl
  rintro _ _ recorded rfl
  apply (transportSend_foretells _).returning
  rintro _ _ final ⟨-, rfl, -⟩
  rfl

/-- Without an authentication the result is next in 3.8 only. -/
def Secured (awaited : Awaited) (memory : Memory) : Prop :=
  memory.client.connInfo.securityType = .none ∧
    awaited = if memory.client.connInfo.rfbVersion = .v38 then .securityResult else .serverInit

/-- `negotiate_security` awaits the server's choice or its list of types, and the result after
that. -/
theorem negotiateSecurity_foretells :
    Foretells word .security negotiateSecurity memory (fun _ => Secured) := by
  apply Foretold.ite
  · intro old
    apply (transportRecv_foretells 4).sequence
    rintro buf _ _ ⟨-, -, rfl, rfl⟩
    simp only [Awaited.received_security, if_pos old]
    apply Foretold.ite
    · intro refused
      rw [if_neg (by rw [refused]; decide)]
      apply readFailureReason_foretells.sequence
      intro error _ _ _
      exact .fail
    · intro _
      apply Foretold.failIf
      intro accepted
      rw [if_pos (not_not.mp accepted)]
      exact .update ⟨rfl, by simp [old]⟩
  · intro new
    apply (transportRecv_foretells 1).sequence
    rintro countBuf _ _ ⟨-, -, rfl, rfl⟩
    simp only [Awaited.received_security, if_neg new]
    apply Foretold.ite
    · intro refused
      rw [if_pos refused]
      apply readFailureReason_foretells.sequence
      intro error _ _ _
      exact .fail
    · intro offered
      rw [if_neg offered]
      have some : (byteAt countBuf 0).toNat ≠ 0 := fun none => offered (UInt8.toNat_inj.mp none)
      apply (malloc_foretells some).sequence
      rintro allocated _ _ ⟨rfl, rfl⟩
      apply Foretold.failIf
      intro _
      apply (transportRecv_foretells _).sequence
      rintro types _ middle ⟨-, -, rfl, rfl⟩
      apply Foretold.failIf
      intro _
      apply (transportSend_foretells _).sequence
      rintro _ _ _ ⟨-, rfl, rfl⟩
      apply Foretold.update
      constructor
      · rfl
      · simp only [Awaited.received_types]
        split <;> rfl

/-- `check_security_result` ends where ServerInit is awaited, with or without a result before it.
-/
theorem checkSecurityResult_foretells {awaited : Awaited} (secured : Secured awaited memory) :
    Foretells word awaited checkSecurityResult memory
      (fun _ awaited' _ => awaited' = .serverInit) := by
  obtain ⟨none, rfl⟩ := secured
  apply Foretold.ite
  · intro latest
    rw [if_pos latest]
    apply (transportRecv_foretells 4).sequence
    rintro buf _ _ ⟨-, -, rfl, rfl⟩
    apply Foretold.onlyIf
    · intro refused
      rw [Awaited.received_securityResult, if_neg refused]
      apply readFailureReason_foretells.sequence
      intro _ _ _ _
      exact .fail
    · intro accepted
      rw [Awaited.received_securityResult, if_pos (not_not.mp accepted)]
  · intro older
    rw [if_neg older]
    apply Foretold.onlyIf
    · intro authenticated
      exact absurd (none.symm.trans authenticated) (by decide)
    · intro _
      rfl

/-- The first framebuffer is next, and it is not empty. Whether it is empty is told by the
announced size and the format. -/
def Sized (word : WordSize) (awaited : Awaited) (memory : Memory) : Prop :=
  awaited = .storage ∧ ¬ memory.client.StartsEmpty word

/-- A receive into the name array takes its bytes off the name that is awaited. When it is the
whole of it, the size that has been announced is not empty. -/
theorem transportRecvName_foretells (len left : Nat) :
    Foretells word (.name left) (transportRecvName len) memory (fun _ awaited' final =>
      awaited' = .nameOf (left - len) ∧ (left ≤ len → ¬ final.client.StartsEmpty word)) := by
  apply derefTransport_foretells.sequence
  rintro _ _ _ ⟨rfl, rfl⟩
  apply Foretold.faultIf
  intro _
  apply (Foretold.ask (by simp [Request.Empty])).sequence
  rintro answer _ _ ⟨size, quiet, rfl, rfl⟩
  cases answer with
  | complete bytes =>
    have size : bytes.length = len := size
    subst size
    exact .update ⟨rfl, fun all empty => quiet ⟨all, empty⟩⟩
  | stopped received error =>
    apply Foretold.failing
    exact .update trivial

/-- Terminating the name receives nothing and changes no size. The header has been recorded
before. -/
theorem terminateName_foretells {awaited : Awaited} (index : Nat) (truncated : Bool) :
    Foretells word awaited (terminateName index truncated) memory (fun _ awaited' final =>
      awaited' = awaited ∧ (final.client.StartsEmpty word ↔ memory.client.StartsEmpty word)) := by
  apply Foretold.faultIf
  intro _
  exact .update ⟨rfl, Iff.rfl⟩

/-- The loop over the rest of the name, by induction on the bytes to skip. The last chunk makes
the framebuffer the next to be set up. -/
theorem discardName_foretells (skip : Nat)
    (sized : skip = 0 → ¬ memory.client.StartsEmpty word) :
    Foretells word (.nameOf skip) (discardName skip) memory (fun _ => Sized word) := by
  induction skip using discardName.induct generalizing memory with
  | case1 skip remaining inductionHypothesis =>
    obtain ⟨left, rfl⟩ := Nat.exists_eq_succ_of_ne_zero (Nat.ne_of_gt remaining)
    rw [discardName, dif_pos remaining]
    apply (transportRecv_foretells _).sequence
    rintro chunk _ final ⟨size, quiet, rfl, rfl⟩
    change Foretells word (.nameOf (left + 1 - chunk.length)) _ final _
    rw [size]
    apply inductionHypothesis
    intro finished empty
    exact quiet ⟨by omega, empty⟩
  | case2 skip finished =>
    obtain rfl : skip = 0 := by omega
    rw [discardName, dif_neg finished]
    exact .done ⟨rfl, sized rfl⟩

/-- The whole name is received, in one piece or in several. Afterwards the announced size is known
not to be empty. -/
theorem receiveName_foretells (nameLen : Nat)
    (sized : nameLen = 0 → ¬ memory.client.StartsEmpty word) :
    Foretells word (.nameOf nameLen) (receiveName nameLen) memory (fun _ => Sized word) := by
  apply Foretold.ite
  · intro named
    obtain ⟨left, rfl⟩ := Nat.exists_eq_succ_of_ne_zero (Nat.ne_of_gt named)
    apply Foretold.ite
    · intro long
      apply (transportRecvName_foretells _ _).sequence
      rintro _ _ received ⟨reached, known⟩
      apply (terminateName_foretells _ _).sequence
      rintro _ _ terminated ⟨kept, same⟩
      rw [kept, reached]
      apply discardName_foretells
      intro finished
      omega
    · intro short
      apply (transportRecvName_foretells _ _).sequence
      rintro _ _ received ⟨rfl, known⟩
      rw [Nat.sub_self]
      apply (terminateName_foretells _ _).returning
      rintro _ _ terminated ⟨rfl, same⟩
      exact ⟨rfl, fun empty => known (Nat.le_refl _) (same.mp empty)⟩
  · intro unnamed
    obtain rfl : nameLen = 0 := by omega
    apply (terminateName_foretells _ _).returning
    rintro _ _ terminated ⟨rfl, same⟩
    exact ⟨rfl, fun empty => sized rfl (same.mp empty)⟩

/-- With the framebuffer in place the list of encodings is next, unless a format is. Without one
the announcement has been made by then; with one it is made when the format has been sent. -/
def Stored (word : WordSize) (awaited : Awaited) (memory : Memory) : Prop :=
  awaited = .greetings ∧
    (memory.client.pixelFormat = none → ¬ memory.client.GreetingWraps word)

/-- The set-up of the framebuffer allocates for a size that is not empty, or fails before it does.
-/
theorem initFramebuffer_foretells {awaited : Awaited} (sized : Sized word awaited memory) :
    Foretells word awaited (initFramebuffer word) memory (fun _ => Stored word) := by
  obtain ⟨rfl, full⟩ := sized
  apply Foretold.load
  apply Foretold.sequence
  case middle =>
    exact fun _ awaited' final => awaited' = .storage ∧
      ∃ framebuffer, final = memory.withFramebuffer framebuffer
  case begins => exact .update ⟨rfl, _, rfl⟩
  rintro _ _ _ ⟨rfl, first, rfl⟩
  apply Foretold.failIf
  intro known
  apply Foretold.sequence
  case middle =>
    exact fun _ awaited' final => awaited' = .storage ∧
      ∃ framebuffer, final = memory.withFramebuffer framebuffer
  case begins => exact .update ⟨rfl, _, rfl⟩
  rintro _ _ _ ⟨rfl, second, rfl⟩
  apply Foretold.ite
  · intro _
    apply callAllocFramebuffer_foretells.returning
    rintro _ _ _ ⟨quiet, rfl, left, rfl⟩
    exact ⟨rfl, fun unset wraps => quiet ⟨unset, wraps⟩⟩
  · intro own
    have some : word.product memory.client.connInfo.width.toNat
        memory.client.connInfo.height.toNat
        (word.ofInt memory.client.activeFormat.bytesPerPixel) ≠ 0 :=
      fun none => full ⟨Int.not_lt.mp known, by simpa using own, none⟩
    apply (callocPixels_foretells some).sequence
    rintro newData awaited _ ⟨obtained, rfl⟩
    apply Foretold.sequence
    case middle =>
      exact fun _ awaited' final => awaited' = awaited ∧
        ∃ framebuffer, final = memory.withFramebuffer framebuffer
    case begins => exact .update ⟨rfl, _, rfl⟩
    rintro _ _ _ ⟨rfl, third, rfl⟩
    cases newData with
    | none => exact .fail
    | some block =>
      obtain ⟨quiet, rfl⟩ := obtained nofun
      exact .done ⟨rfl, fun unset wraps => quiet ⟨unset, wraps⟩⟩

/-- `ovnc__send_set_encodings` allocates a buffer that is not empty, since the size of the list
does not wrap. -/
theorem sendSetEncodings_foretells {awaited : Awaited} {encodings : List EncodingType}
    (fits : ¬ word.EncodingsWrap encodings) :
    Foretells word awaited (sendSetEncodings word encodings) memory (fun _ _ _ => True) := by
  apply (malloc_foretells fits).sequence
  rintro allocated _ _ ⟨rfl, rfl⟩
  apply Foretold.failIf
  intro _
  apply Foretold.faultIf
  intro _
  apply (transportSend_foretells _).returning
  intro _ _ _ _
  trivial

/-- The initial messages allocate nothing but the buffer for the encodings. That buffer is empty
for no list that is short enough. -/
theorem sendInitialMessages_foretells {awaited : Awaited} (stored : Stored word awaited memory) :
    Foretells word awaited (sendInitialMessages word) memory (fun _ _ _ => True) := by
  obtain ⟨rfl, unset⟩ := stored
  apply Foretold.load
  apply Foretold.sequence
  case middle => exact fun _ _ _ => ¬ memory.client.GreetingWraps word
  case begins =>
    cases format : memory.client.pixelFormat with
    | none => exact .done (unset format)
    | some format' =>
      apply (transportSend_foretells _).returning
      rintro _ _ final ⟨quiet, -, rfl⟩
      exact fun wraps => quiet ⟨by simp [format], wraps⟩
  intro _ awaited' final fits
  cases listed : memory.client.encodings with
  | none => exact .done trivial
  | some encodings =>
    apply Foretold.onlyIf
    · intro some
      apply sendSetEncodings_foretells
      exact fun wraps => fits ⟨encodings, listed, some, wraps⟩
    · intro _
      trivial

/-- ServerInit is awaited as a header and a name, and the framebuffer is set up for it. The size
that its header announces is what tells whether the framebuffer is empty. -/
theorem receiveServerInit_foretells :
    Foretells word .serverInit (receiveServerInit word) memory (fun _ => Stored word) := by
  apply (transportRecv_foretells 24).sequence
  rintro header _ start ⟨-, quiet, rfl, rfl⟩
  apply Foretold.sequence
  case middle =>
    exact fun _ awaited' final => awaited' = .nameOf (readU32 (header.drop 20)).toNat ∧
      final = start.withConnInfo (start.client.connInfo.started header)
  case begins => exact .update ⟨rfl, rfl⟩
  rintro _ _ _ ⟨rfl, rfl⟩
  apply Foretold.sequence
  case begins =>
    apply receiveName_foretells
    intro unnamed empty
    exact quiet ⟨UInt32.toNat_inj.mp unnamed, empty⟩
  intro _ awaited' final sized
  exact initFramebuffer_foretells sized

/-- `ovnc__handshake` allocates nothing of no size, unless the bytes received have announced it.
-/
theorem handshake_foretells :
    Foretells word .version (handshake word) memory (fun _ _ _ => True) := by
  apply negotiateVersion_foretells.sequence
  rintro _ _ versioned rfl
  apply negotiateSecurity_foretells.sequence
  intro _ awaited secured holds
  apply (checkSecurityResult_foretells holds).sequence
  rintro _ _ checked rfl
  apply Foretold.sequence
  case middle => exact fun _ => Stored word
  case begins =>
    apply Foretold.load
    apply (transportSend_foretells _).sequence
    rintro _ _ greeted ⟨-, rfl, rfl⟩
    exact receiveServerInit_foretells
  intro _ awaited' initialized stored
  exact sendInitialMessages_foretells stored

end Handshake

/-! ## The API -/

section Calls

variable {word : WordSize} {awaited : Awaited} {memory : Memory}

/-- Whatever is awaited: nothing is allocated, and nothing has to be said afterwards. -/
theorem transportDestroy_foretells :
    Foretells word awaited transportDestroy memory (fun _ _ _ => True) := by
  apply Foretold.load
  cases memory.client.transport with
  | none => exact .done trivial
  | some transport =>
    apply Foretold.sequence
    case middle => exact fun _ _ _ => True
    case begins =>
      apply Foretold.onlyIf
      · intro _
        apply (Foretold.ask (by simp [Request.Empty])).sequence
        intro _ _ _ _
        exact .done trivial
      · intro _
        trivial
    case continues =>
      intro _ _ _ _
      exact .update trivial

/-- An attempt that is abandoned allocates nothing. Its socket is closed, and nothing else is
asked for. -/
theorem abandonConnect_foretells {passed : Unit → Awaited → Memory → Prop} (error : Error) :
    Foretells word awaited (abandonConnect error) memory passed := by
  apply transportDestroy_foretells.sequence
  intro _ _ _ _
  apply Foretold.failing
  exact .update trivial

/-- `ovnc__transport_create` allocates its record, which is never empty. The monitor takes no
notice of it. -/
theorem transportCreate_foretells :
    Foretells word awaited transportCreate memory (fun _ awaited' _ => awaited' = awaited) := by
  apply (Foretold.ask (by simp [Request.Empty])).sequence
  rintro allocated _ _ ⟨-, -, rfl, rfl⟩
  apply Foretold.failIf
  intro _
  exact .update rfl

/-- Dialling allocates nothing. The answer says nothing about sizes. -/
theorem transportConnect_foretells :
    Foretells word awaited transportConnect memory (fun _ awaited' _ => awaited' = awaited) := by
  apply derefTransport_foretells.sequence
  rintro _ _ _ ⟨rfl, rfl⟩
  apply Foretold.load
  apply (Foretold.ask (by simp [Request.Empty])).sequence
  rintro answer _ _ ⟨-, -, rfl, rfl⟩
  cases answer with
  | ok sock => exact .update rfl
  | error error => exact .fail

/-- The handshake of an attempt, and what follows its end. It starts with the version, whatever
was awaited before the call. -/
theorem connectHandshake_foretells :
    Foretells word .version (connectHandshake word) memory (fun _ _ _ => True) := by
  apply handshake_foretells.attempt.sequence
  intro shaken _ _ _
  cases shaken with
  | error error => exact abandonConnect_foretells error
  | ok => exact .update trivial

/-- The dialling of an attempt, and what follows its end. -/
theorem connectTransport_foretells :
    Foretells word .version (connectTransport word) memory (fun _ _ _ => True) := by
  apply transportConnect_foretells.attempt.sequence
  intro connected awaited final reached
  cases connected with
  | error error => exact abandonConnect_foretells error
  | ok =>
    rw [reached () rfl]
    exact connectHandshake_foretells

/-- `ovnc_client_connect` allocates nothing of no size without an announcement. A client that
has been used is refused before it asks for anything. -/
theorem clientConnect_foretells :
    Foretells word .version (clientConnect word) memory (fun _ _ _ => True) := by
  apply Foretold.load
  apply Foretold.failIf
  intro _
  apply Foretold.sequence
  case middle => exact fun _ awaited' _ => awaited' = .version
  case begins => exact .update rfl
  rintro _ _ counted rfl
  apply transportCreate_foretells.attempt.sequence
  intro created awaited final reached
  cases created with
  | error error =>
    apply Foretold.failing
    exact .update trivial
  | ok =>
    rw [reached () rfl]
    exact connectTransport_foretells

/-- What follows a message that could not be processed allocates nothing. The end of a
connection is no matter of storage. -/
theorem tearDown_foretells {passed : Unit → Awaited → Memory → Prop} (error : Error) :
    Foretells word awaited (tearDown error) memory passed := by
  apply (fire_foretells _).sequence
  intro _ _ _ _
  apply clientDisconnect_foretells.sequence
  intro _ _ _ _
  exact .fail

/-- The guard of a call is passed by a connected client only, and asks for nothing. -/
theorem requireConnected_foretells :
    Foretells word awaited requireConnected memory (fun _ awaited' final =>
      memory.client.state = .connected ∧ awaited' = awaited ∧ final = memory) := by
  by_cases connected : memory.client.state = .connected
  · change Foretells word awaited (failIf (memory.client.state ≠ .connected) .invalidArg) memory _
    rw [failIf, if_neg (not_not.mpr connected)]
    exact .done ⟨connected, rfl, rfl⟩
  · change Foretells word awaited (failIf (memory.client.state ≠ .connected) .invalidArg) memory _
    rw [failIf, if_pos connected]
    exact .fail

/-- `ovnc_client_process_message` awaits one message. The message's own header announces what
may be empty. -/
theorem clientProcessMessage_foretells :
    Foretells word .message (clientProcessMessage word) memory (fun _ _ _ => True) := by
  apply requireConnected_foretells.sequence
  rintro _ _ _ ⟨-, rfl, rfl⟩
  apply recvServerMessage_foretells.attempt.sequence
  intro received _ _ _
  cases received with
  | ok => exact .done trivial
  | error error => exact tearDown_foretells error

/-- The message loop, by induction on its bound. Each iteration awaits a message again. -/
theorem runLoop_foretells (bound : Nat) :
    Foretells word .message (runLoop word bound) memory (fun _ _ _ => True) := by
  induction bound generalizing memory with
  | zero => exact .stalled
  | succ bound inductionHypothesis =>
    apply Foretold.load
    apply Foretold.ite
    · intro _
      apply recvServerMessage_foretells.attempt.sequence
      intro received awaited final reached
      cases received with
      | ok =>
        rw [reached () rfl]
        exact inductionHypothesis
      | error error => exact tearDown_foretells error
    · intro _
      exact .done trivial

/-- New storage is for the new format. It is empty only when the framebuffer is, or when the
size wraps to zero. -/
theorem adoptPixelFormat_foretells (format : PixelFormat)
    (stored : ¬ memory.client.ReplacesByNothing word format) :
    Foretells word awaited (adoptPixelFormat word format) memory (fun _ _ _ => True) := by
  apply Foretold.load
  apply Foretold.sequence
  case middle => exact fun _ _ final => ∃ framebuffer, final = memory.withFramebuffer framebuffer
  case begins => exact .update ⟨_, rfl⟩
  rintro _ awaited' _ ⟨first, rfl⟩
  apply Foretold.onlyIf
  · intro replaced
    apply Foretold.sequence
    case middle => exact fun _ _ _ => True
    case begins => exact .update trivial
    intro _ _ resized _
    apply Foretold.ite
    · intro _
      exact callAllocFramebuffer_foretells.returning (fun _ _ _ _ => trivial)
    · intro own
      have some : word.product memory.client.framebuffer.width.toNat
          memory.client.framebuffer.height.toNat (word.ofInt format.bytesPerPixel) ≠ 0 :=
        fun none => stored ⟨replaced, by simpa using own, none⟩
      apply (callocPixels_foretells some).sequence
      rintro newData _ _ ⟨-, rfl⟩
      cases newData with
      | none => exact .fail
      | some block =>
        apply (freePixels_foretells _).sequence
        intro _ _ _ _
        exact .update trivial
  · intro _
    trivial

/-- `ovnc_client_set_pixel_format` sends its message before it allocates, so the new format has
been announced by then. -/
theorem clientSetPixelFormat_foretells (format : PixelFormat) :
    Foretells word (.newFormat format) (clientSetPixelFormat word (some format)) memory
      (fun _ _ _ => True) := by
  apply requireConnected_foretells.sequence
  rintro _ _ _ ⟨-, rfl, rfl⟩
  apply Foretold.failIf
  intro _
  apply (transportSend_foretells _).sequence
  rintro _ _ _ ⟨quiet, rfl, rfl⟩
  exact adoptPixelFormat_foretells format quiet

/-- A call that sends allocates nothing. -/
theorem send_foretells (data : List UInt8) :
    Foretells word awaited (transportSend data) memory (fun _ _ _ => True) :=
  (transportSend_foretells data).returning (fun _ _ _ _ => trivial)

/-- `ovnc__send_client_cut_text` allocates nothing. -/
theorem sendClientCutText_foretells (text : List UInt8) (length : UInt32) :
    Foretells word awaited (sendClientCutText text length) memory (fun _ _ _ => True) := by
  apply (send_foretells _).sequence
  intro _ _ _ _
  apply Foretold.onlyIf
  · intro _
    apply Foretold.faultIf
    intro _
    exact send_foretells _
  · intro _
    trivial

end Calls

/-- Every call asks for an empty block only when it was announced. A size that
its arguments make wrap is excluded; the others are announced on the way. -/
theorem perform_foretells (word : WordSize) (bound : Nat) (call : ApiCall) (memory : Memory)
    (fits : ¬ call.Wraps word memory.client) :
    Foretells word call.awaits (perform word bound call) memory (fun _ _ _ => True) := by
  cases call with
  | connect => exact clientConnect_foretells
  | disconnect => exact clientDisconnect_foretells.returning (fun _ _ _ _ => trivial)
  | processMessage => exact clientProcessMessage_foretells
  | run =>
    apply requireConnected_foretells.sequence
    rintro _ _ _ ⟨-, rfl, rfl⟩
    exact runLoop_foretells bound
  | requestUpdate | sendKeyEvent | sendPointerEvent =>
    apply requireConnected_foretells.sequence
    rintro _ _ _ ⟨-, rfl, rfl⟩
    exact send_foretells _
  | sendCutText text length =>
    apply requireConnected_foretells.sequence
    rintro _ _ _ ⟨-, rfl, rfl⟩
    cases text with
    | none => exact .fail
    | some text => exact sendClientCutText_foretells text length
  | setPixelFormat format =>
    cases format with
    | none => exact .fail
    | some format => exact clientSetPixelFormat_foretells format
  | setEncodings encodings =>
    cases encodings with
    | none => exact .fail
    | some encodings =>
      apply requireConnected_foretells.sequence
      rintro _ _ _ ⟨connected, rfl, rfl⟩
      exact sendSetEncodings_foretells (fun wraps => fits ⟨connected, wraps⟩)

/-- In every execution of a call without an announcement no empty block is asked for. The
condition can be computed from the call, the state and what was received. -/
theorem perform_unannounced {word : WordSize} {bound : Nat} {call : ApiCall}
    {memory final : Memory} {events : List Step} {outcome : Outcome Error Fault Unit}
    (execution : Execution Allowed (perform word bound call) memory events outcome final)
    (quiet : ¬ call.Announced word memory events) : ∀ event ∈ events, ¬ event.request.Empty := by
  have fits : ¬ call.Wraps word memory.client := fun wraps => quiet (.inl wraps)
  rcases (wp_iff _ _ _).mp (perform_foretells word bound call memory fits) _ _ _ execution with
    alarmed | ⟨plain, -⟩
  · exact absurd (.inr alarmed) quiet
  · exact plain

end OpenVnc
