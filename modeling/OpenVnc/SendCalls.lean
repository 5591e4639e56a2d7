import OpenVnc.Calls
import OpenVnc.Sending

/-!
# The API calls that send

Which sender a call of the API comes down to, with which arguments, and that the call
puts exactly the buffers of this sender on the wire. A call that is refused sends
nothing. Setting the pixel format has work to do after its message has been sent, and
may fail in that.
-/

namespace OpenVnc

open Interaction Interaction.Program Codec

namespace ApiCall

/-- The text of a call is an array of at least the given length. -/
def Readable : ApiCall → Prop
  | sendCutText (some text) length => length.toNat ≤ text.length
  | _ => True

/-- A list of encodings that is set has at most as many as the count of its message
can tell. -/
def Countable : ApiCall → Prop
  | setEncodings (some encodings) => encodings.length ≤ 65535
  | _ => True

/-- The sender a call on a connected client executes, unless the call is refused. A
request for an update without a rectangle is for the whole framebuffer. -/
def sender (framebuffer : Framebuffer) : ApiCall → Option Sender
  | requestUpdate rect incremental =>
      let rect := rect.getD ⟨0, 0, framebuffer.width, framebuffer.height⟩
      some (.fbUpdateRequest incremental.toUInt32.toUInt8 rect.x rect.y rect.width rect.height)
  | sendKeyEvent key down => some (.keyEvent key (if down ≠ 0 then 1 else 0))
  | sendPointerEvent x y buttonMask => some (.pointerEvent x y buttonMask)
  | sendCutText (some text) length =>
      if readable : length.toNat ≤ text.length then some (.clientCutText text length readable)
      else none
  | setPixelFormat (some format) =>
      if format.bytesPerPixel < 0 then none else some (.setPixelFormat format)
  | setEncodings (some encodings) => some (.setEncodings encodings)
  | _ => none

/-- Texts are sent by the call for texts only. -/
theorem sender_clientCutText {framebuffer : Framebuffer} {call : ApiCall} {text : List UInt8}
    {length : UInt32} {readable : length.toNat ≤ text.length}
    (picked : call.sender framebuffer = some (.clientCutText text length readable)) :
    call = .sendCutText (some text) length := by
  cases call with
  | sendCutText sent count =>
    cases sent with
    | none => cases picked
    | some sent =>
      simp only [sender] at picked
      split at picked
      · cases picked
        rfl
      · cases picked
  | setPixelFormat format =>
    cases format with
    | none => cases picked
    | some format =>
      simp only [sender] at picked
      split at picked <;> cases picked
  | setEncodings encodings => cases encodings <;> cases picked
  | _ => cases picked

/-- Encodings are announced by the call for them only. -/
theorem sender_setEncodings {framebuffer : Framebuffer} {call : ApiCall}
    {encodings : List EncodingType}
    (picked : call.sender framebuffer = some (.setEncodings encodings)) :
    call = .setEncodings (some encodings) := by
  cases call with
  | setEncodings listed =>
    cases listed with
    | none => cases picked
    | some listed =>
      cases picked
      rfl
  | sendCutText sent count =>
    cases sent with
    | none => cases picked
    | some sent =>
      simp only [sender] at picked
      split at picked <;> cases picked
  | setPixelFormat format =>
    cases format with
    | none => cases picked
    | some format =>
      simp only [sender] at picked
      split at picked <;> cases picked
  | _ => cases picked

/-- The message of a call can be encoded when the encodings it sets can be counted. -/
theorem Countable.encodable {framebuffer : Framebuffer} {call : ApiCall} {sender : Sender}
    (countable : call.Countable) (picked : call.sender framebuffer = some sender) :
    sender.message.Encodable := by
  apply Sender.encodable
  rintro encodings rfl
  obtain rfl := sender_setEncodings picked
  exact countable

end ApiCall

section Rules

variable {memory : Memory} {stopped : Option Error → List Transfer → Prop}

/-- The guard of a call: without a connection the call stops before it sends. -/
theorem transfers_requireConnected {tolerated : Fault → Prop} {following : Unit → Routine Unit}
    {passed : Unit → List Transfer → Memory → Prop} (refused : stopped (some .invalidArg) [])
    (continues : Transfers tolerated stopped (following ()) memory passed) :
    Transfers tolerated stopped (requireConnected >>= following) memory passed := by
  unfold requireConnected
  exact Proceeds.load (Proceeds.failIf (fun _ => refused) (fun _ => continues))

/-- Adopting a format transfers nothing. -/
theorem adoptPixelFormat_transfers (word : WordSize) (format : PixelFormat)
    (silent : ∀ reason, stopped reason []) :
    Transfers (fun _ => True) stopped (adoptPixelFormat word format) memory
      (fun _ exchange _ => exchange = []) := by
  have keeps : Keeps Allowed Memory.standing (fun event => transfer event = none)
      (fun _ _ => True) (adoptPixelFormat word format) := by
    apply adoptPixelFormat_keeps (fun _ _ _ _ => rfl)
      (callAllocFramebuffer_keeps (fun _ _ _ => rfl) (fun _ _ => rfl))
    intro memory request answer decoding unreceiving
    cases request with
    | recv len => exact absurd rfl (unreceiving len)
    | malloc | calloc | free | allocFramebuffer => rfl
    | _ => cases decoding
  apply (Proceeds.of_keeps keeps (fun _ _ => trivial) silent).returning
  rintro ⟨⟩ exchange final ⟨nothing, -⟩
  exact nothing

end Rules

/-! ## The calls -/

/-- What a call that returns has put on the wire: all the buffers of its sender. -/
def WholeSender (chosen : Option Sender) (exchange : List Transfer) : Prop :=
  ∃ sender, chosen = some sender ∧ exchange = sender.buffers.map .sent

/-- What a call that has stopped has put on the wire: nothing, or the buffers of its
sender, perhaps not all of them. -/
def WithinSender (chosen : Option Sender) (reason : Option Error) (exchange : List Transfer) :
    Prop :=
  exchange = [] ∨ (∃ sender, chosen = some sender ∧ Interrupted sender.buffers reason exchange) ∨
    WholeSender chosen exchange

/-- A sender that is chosen is executed as it is. -/
theorem routine_within (word : WordSize) (memory : Memory) {chosen : Option Sender}
    {sender : Sender} (picked : chosen = some sender) :
    Transfers (fun _ => True) (WithinSender chosen) (sender.routine word) memory
      (fun _ exchange _ => WholeSender chosen exchange) := by
  apply (sender.routine_transfers word (fun _ => trivial) (fun _ => trivial)).weaken
  · exact fun _ _ unfinished =>
      unfinished.imp_right (fun interrupted => .inl ⟨sender, picked, interrupted⟩)
  · exact fun _ _ _ sent => ⟨sender, picked, sent.1⟩

/-- Any call that sends, on a client in any state. -/
theorem perform_transfers (word : WordSize) (bound : Nat) {call : ApiCall}
    (sends : call.sends = true) (readable : call.Readable) (memory : Memory) :
    Transfers (fun _ => True) (WithinSender (call.sender memory.client.framebuffer))
      (perform word bound call) memory
      (fun _ exchange _ => WholeSender (call.sender memory.client.framebuffer) exchange) := by
  cases call with
  | connect | disconnect | processMessage | run => exact absurd sends (by decide)
  | requestUpdate rect incremental =>
    exact transfers_requireConnected (.inl rfl) (Proceeds.load (routine_within word memory rfl))
  | sendKeyEvent key down =>
    exact transfers_requireConnected (.inl rfl) (routine_within word memory rfl)
  | sendPointerEvent x y buttonMask =>
    exact transfers_requireConnected (.inl rfl) (routine_within word memory rfl)
  | sendCutText text length =>
    apply transfers_requireConnected (.inl rfl)
    cases text with
    | none => exact Proceeds.fail (.inl rfl)
    | some text =>
      have picked : ApiCall.sender memory.client.framebuffer (.sendCutText (some text) length) =
          some (.clientCutText text length readable) := dif_pos readable
      exact routine_within word memory picked
  | setPixelFormat format =>
    cases format with
    | none => exact Proceeds.fail (.inl rfl)
    | some format =>
      refine transfers_requireConnected (.inl rfl)
        (Proceeds.failIf (fun _ => .inl rfl) (fun usable => ?_))
      have picked : ApiCall.sender memory.client.framebuffer (.setPixelFormat (some format)) =
          some (.setPixelFormat format) := if_neg usable
      apply Proceeds.sequence (routine_within word memory picked)
      rintro ⟨⟩ exchange middle ⟨sender, chosen, sent⟩
      have whole : WholeSender (ApiCall.sender memory.client.framebuffer
          (.setPixelFormat (some format))) (exchange ++ []) :=
        ⟨sender, chosen, by rw [List.append_nil, sent]⟩
      apply (adoptPixelFormat_transfers word format (fun _ => .inr (.inr whole))).returning
      rintro ⟨⟩ later final rfl
      exact whole
  | setEncodings encodings =>
    cases encodings with
    | none => exact Proceeds.fail (.inl rfl)
    | some encodings =>
      exact transfers_requireConnected (.inl rfl) (routine_within word memory rfl)

/-! ## The bytes of a call -/

/-- An interrupted exchange is the beginning of what the buffers make up. -/
theorem Interrupted.begins {buffers : List (List UInt8)} {reason : Option Error}
    {exchange : List Transfer} (interrupted : Interrupted buffers reason exchange) :
    exchange.flatMap Transfer.written <+: buffers.flatten := by
  cases interrupted with
  | waiting sent next rest =>
    rw [flatMap_written_sent, List.flatten_append]
    exact List.prefix_append _ _
  | @stopped sent next rest error written less =>
    rw [List.flatMap_append, flatMap_written_sent, List.flatten_append, List.flatten_cons]
    apply (List.prefix_append_right_inj _).mpr
    have taken : next.take written <+: next := List.take_prefix _ _
    simpa using taken.trans (List.prefix_append next rest.flatten)

/-- The buffers of a sender make up the message that is sent. -/
theorem WholeSender.complete {chosen : Option Sender} {exchange : List Transfer}
    (encodable : ∀ sender, chosen = some sender → sender.message.Encodable)
    (whole : WholeSender chosen exchange) :
    Complete WireMessage.encode (exchange.flatMap Transfer.written) := by
  obtain ⟨sender, picked, rfl⟩ := whole
  rw [flatMap_written_sent, sender.buffers_wireMessage (encodable sender picked)]
  exact .single _

/-- What a call has sent when it stops is the beginning of its message. -/
theorem WithinSender.unbroken {chosen : Option Sender} {reason : Option Error}
    {exchange : List Transfer}
    (encodable : ∀ sender, chosen = some sender → sender.message.Encodable)
    (within : WithinSender chosen reason exchange) :
    Unbroken WireMessage.encode (exchange.flatMap Transfer.written) := by
  rcases within with rfl | ⟨sender, picked, interrupted⟩ | whole
  · exact Complete.nil.unbroken
  · exact .beginning (sender.buffers_wireMessage (encodable sender picked) ▸ interrupted.begins)
  · exact (whole.complete encodable).unbroken

/-- Where nothing is sent no byte goes out. -/
theorem outgoing_unsent {events : List Step}
    (unsent : ∀ event ∈ events, event.request.isSend = false) : outgoing events = [] := by
  apply List.flatMap_eq_nil_iff.mpr
  intro exchanged member
  obtain ⟨⟨memory, request, answer⟩, happened, seen⟩ := List.mem_filterMap.mp member
  have other : request.isSend = false := unsent _ happened
  cases request with
  | send => cases other
  | recv len => cases answer <;> (cases seen; rfl)
  | _ => cases seen

end OpenVnc
