import OpenVnc.ClientMessages
import OpenVnc.Transfers

/-!
# What the senders put on the wire

A call of one of the six senders, whatever its arguments, hands one or two buffers to
the transport, which together are the encoding of its message. A call that returns has
sent them all, and one that stops on the way has not sent the last one to its end.
-/

namespace OpenVnc

open Interaction Interaction.Program

/-- A call of a sender, with arguments of their types. The text of ClientCutText is an
array of at least the given length. -/
inductive Sender where
  | setPixelFormat (fmt : PixelFormat)
  | setEncodings (encodings : List EncodingType)
  | fbUpdateRequest (incremental : UInt8) (x y width height : UInt16)
  | keyEvent (key : UInt32) (down : UInt8)
  | pointerEvent (x y : UInt16) (buttonMask : UInt8)
  | clientCutText (text : List UInt8) (length : UInt32) (readable : length.toNat ≤ text.length)
deriving DecidableEq

namespace Sender

/-- The routine of the call. -/
def routine (word : WordSize) : Sender → Routine Unit
  | setPixelFormat fmt => sendSetPixelFormat fmt
  | setEncodings encodings => sendSetEncodings word encodings
  | fbUpdateRequest incremental x y width height =>
      sendFbUpdateRequest incremental x y width height
  | keyEvent key down => sendKeyEvent key down
  | pointerEvent x y buttonMask => sendPointerEvent x y buttonMask
  | clientCutText text length _ => sendClientCutText text length

/-- The buffers the call hands to the transport, one after another. -/
def buffers : Sender → List (List UInt8)
  | setPixelFormat fmt => [[0] ++ [0, 0, 0] ++ fmt.toWire]
  | setEncodings encodings => [setEncodingsBuffer encodings]
  | fbUpdateRequest incremental x y width height =>
      [[3] ++ [incremental] ++ writeU16 x ++ writeU16 y ++ writeU16 width ++ writeU16 height]
  | keyEvent key down => [[4] ++ [down] ++ [0, 0] ++ writeU32 key]
  | pointerEvent x y buttonMask => [[5] ++ [buttonMask] ++ writeU16 x ++ writeU16 y]
  | clientCutText text length _ =>
      ([6] ++ [0, 0, 0] ++ writeU32 length) ::
        if 0 < length then [text.take length.toNat] else []

/-- The message the call is to send. Of a text only the given length counts. -/
def message : Sender → ClientMessage
  | setPixelFormat fmt => .setPixelFormat fmt
  | setEncodings encodings => .setEncodings encodings
  | fbUpdateRequest incremental x y width height =>
      .fbUpdateRequest incremental x y width height
  | keyEvent key down => .keyEvent key down
  | pointerEvent x y buttonMask => .pointerEvent x y buttonMask
  | clientCutText text length _ => .clientCutText (text.take length.toNat)

/-- The buffers together are the encoding of the message. -/
theorem buffers_flatten (sender : Sender) : sender.buffers.flatten = sender.message.encode := by
  cases sender with
  | clientCutText text length readable =>
    have size : (text.take length.toNat).length = length.toNat := List.length_take_of_le readable
    simp only [buffers, message, ClientMessage.encode, size, UInt32.ofNat_toNat, List.flatten_cons]
    split
    · simp
    · next empty =>
      have zero : length.toNat = 0 := by simpa [UInt32.lt_iff_toNat_lt] using empty
      simp [zero]
  | _ => exact List.append_nil _

/-- A message can be encoded when the counts of its call fit. The length of a text has
the width of its field. -/
theorem encodable {sender : Sender}
    (counted : ∀ encodings, sender = .setEncodings encodings → encodings.length ≤ 65535) :
    sender.message.Encodable := by
  cases sender with
  | setEncodings encodings => exact Nat.lt_succ_of_le (counted encodings rfl)
  | clientCutText text length readable =>
    have size : (text.take length.toNat).length = length.toNat := List.length_take_of_le readable
    change (text.take length.toNat).length < 2 ^ 32
    rw [size]
    exact length.toNat_lt
  | _ => trivial

/-- The message as a peer can be sent it. -/
def wireMessage (sender : Sender) (encodable : sender.message.Encodable) : WireMessage :=
  ⟨sender.message, encodable⟩

/-- The buffers of an encodable message are its encoding in the client's own grammar. -/
theorem buffers_wireMessage (sender : Sender) (encodable : sender.message.Encodable) :
    sender.buffers.flatten = (sender.wireMessage encodable).encode := sender.buffers_flatten

end Sender

/-! ## Sending buffers one after another -/

/-- A completed send is an attempt with the whole buffer. -/
theorem attempts_sent (buffers : List (List UInt8)) :
    (buffers.map Transfer.sent).filterMap Transfer.attempt = buffers := by
  rw [List.filterMap_map]
  exact List.filterMap_some

/-- Completed sends have written the buffers one after the other. -/
theorem flatMap_written_sent (buffers : List (List UInt8)) :
    (buffers.map Transfer.sent).flatMap Transfer.written = buffers.flatten := by
  rw [List.flatMap_map, List.flatten_eq_flatMap]
  rfl

/-- An exchange in which not all the buffers have been sent: the routine is still waiting
to send the next one, or that one was stopped before its end. -/
inductive Interrupted : List (List UInt8) → Option Error → List Transfer → Prop where
  | waiting (sent : List (List UInt8)) (next : List UInt8) (rest : List (List UInt8)) :
      Interrupted (sent ++ next :: rest) none (sent.map .sent)
  | stopped (sent : List (List UInt8)) (next : List UInt8) (rest : List (List UInt8))
      (error : Error) {written : Nat} (less : written < next.length) :
      Interrupted (sent ++ next :: rest) (some error)
        (sent.map .sent ++ [.sendStopped next written])

/-- A send that completes before the interruption moves it one buffer further. -/
theorem Interrupted.cons {buffers : List (List UInt8)} {reason : Option Error}
    {exchange : List Transfer} (interrupted : Interrupted buffers reason exchange)
    (buffer : List UInt8) :
    Interrupted (buffer :: buffers) reason (.sent buffer :: exchange) := by
  cases interrupted with
  | waiting sent next rest => exact .waiting (buffer :: sent) next rest
  | stopped sent next rest error less => exact .stopped (buffer :: sent) next rest error less

/-- An error on the way is that of a send that was stopped. -/
theorem Interrupted.sendStopped {buffers : List (List UInt8)} {error : Error}
    {exchange : List Transfer} (interrupted : Interrupted buffers (some error) exchange) :
    ∃ next written, Transfer.sendStopped next written ∈ exchange := by
  cases interrupted with
  | @stopped sent next rest _ written less => exact ⟨next, written, by simp⟩

/-- What has been handed over is a beginning of the buffers. -/
theorem Interrupted.attempts {buffers : List (List UInt8)} {reason : Option Error}
    {exchange : List Transfer} (interrupted : Interrupted buffers reason exchange) :
    exchange.filterMap Transfer.attempt <+: buffers := by
  cases interrupted with
  | waiting sent next rest =>
    rw [attempts_sent]
    exact List.prefix_append _ _
  | stopped sent next rest error less =>
    rw [List.filterMap_append, attempts_sent]
    exact ⟨rest, List.append_assoc _ _ _⟩

/-- An exchange of a call that did not send all its buffers: it stopped before the first
one, or in between. -/
def Unfinished (buffers : List (List UInt8)) (reason : Option Error) (exchange : List Transfer) :
    Prop := exchange = [] ∨ Interrupted buffers reason exchange

section Rules

variable {memory : Memory} {tolerated : Fault → Prop}

/-- The triple of a routine that sends buffers and stops for nothing else. -/
abbrev SendsBuffers (tolerated : Fault → Prop) (buffers : List (List UInt8))
    (routine : Routine Unit) (memory : Memory) : Prop :=
  Transfers tolerated (Interrupted buffers) routine memory (fun _ exchange final =>
    exchange = buffers.map .sent ∧ final = memory)

/-- One buffer, then the others. -/
theorem transportSend_then {data : List UInt8} {rest : List (List UInt8)}
    {following : Unit → Routine Unit}
    (detached : memory.client.transport = none → tolerated .nullTransport)
    (continues : Transfers tolerated
      (fun reason later => Interrupted (data :: rest) reason (.sent data :: later))
      (following ()) memory (fun _ later final => later = rest.map .sent ∧ final = memory)) :
    SendsBuffers tolerated (data :: rest) (transportSend data >>= following) memory := by
  refine Proceeds.sequence (transportSend_transfers detached (.waiting [] data rest)
    (fun error written less => .stopped [] data rest error less)) ?_
  rintro ⟨⟩ exchange middle ⟨rfl, rfl⟩
  apply continues.returning
  rintro ⟨⟩ later final ⟨rfl, rfl⟩
  exact ⟨rfl, rfl⟩

/-- `ovnc__transport_send` sends its one buffer, or is interrupted in it. -/
theorem transportSend_sendsBuffers {data : List UInt8}
    (detached : memory.client.transport = none → tolerated .nullTransport) :
    SendsBuffers tolerated [data] (transportSend data) memory := by
  refine (transportSend_transfers detached (.waiting [] data [])
    (fun error written less => .stopped [] data [] error less)).returning ?_
  rintro ⟨⟩ exchange final ⟨rfl, rfl⟩
  exact ⟨rfl, rfl⟩

/-- The list of encodings is put together first, which may fail. -/
theorem sendSetEncodings_transfers (word : WordSize) (encodings : List EncodingType)
    (detached : memory.client.transport = none → tolerated .nullTransport)
    (overrun : word.wrap (4 + 4 * encodings.length) < 4 + 4 * encodings.length →
      tolerated (.outOfBounds .message)) :
    Transfers tolerated (Unfinished [setEncodingsBuffer encodings])
      (sendSetEncodings word encodings) memory (fun _ exchange final =>
        exchange = [.sent (setEncodingsBuffer encodings)] ∧ final = memory) := by
  refine Proceeds.ask (fun _ => rfl) (.inl rfl) (fun allocated _ =>
    Proceeds.failIf (fun _ => .inl rfl) (fun _ => ?_))
  exact Proceeds.faultIf overrun (fun _ =>
    (transportSend_sendsBuffers detached).weaken (fun _ _ => .inr) (fun _ _ _ => id))

/-- A text goes out in two buffers. -/
theorem sendClientCutText_sendsBuffers {text : List UInt8} {length : UInt32}
    (readable : length.toNat ≤ text.length)
    (detached : memory.client.transport = none → tolerated .nullTransport) :
    SendsBuffers tolerated (Sender.clientCutText text length readable).buffers
      (sendClientCutText text length) memory := by
  apply transportSend_then detached
  apply Proceeds.onlyIf
  · intro positive
    rw [if_pos positive]
    apply Proceeds.faultIf (fun overrun => absurd readable (Nat.not_le.mpr overrun))
    intro _
    exact (transportSend_sendsBuffers detached).weaken
      (fun _ _ interrupted => interrupted.cons _) (fun _ _ _ => id)
  · intro empty
    rw [if_neg empty]
    exact ⟨rfl, rfl⟩

/-- Every call of a sender. -/
theorem Sender.routine_transfers (word : WordSize) (sender : Sender)
    (detached : memory.client.transport = none → tolerated .nullTransport)
    (overrun : ∀ buffer, tolerated (.outOfBounds buffer)) :
    Transfers tolerated (Unfinished sender.buffers) (sender.routine word) memory
      (fun _ exchange final => exchange = sender.buffers.map .sent ∧ final = memory) := by
  cases sender with
  | setEncodings encodings =>
    exact sendSetEncodings_transfers word encodings detached (fun _ => overrun _)
  | clientCutText text length readable =>
    exact (sendClientCutText_sendsBuffers readable detached).weaken (fun _ _ => .inr)
      (fun _ _ _ => id)
  | _ =>
    exact (transportSend_sendsBuffers detached).weaken (fun _ _ => .inr) (fun _ _ _ => id)

end Rules

/-! ## Several calls -/

/-- Calls of senders, one after another, up to the first that fails. -/
def sendAll (word : WordSize) : List Sender → Routine Unit
  | [] => return ()
  | sender :: senders => do
    sender.routine word
    sendAll word senders

/-- Calls that have all returned have sent the encodings of their messages. -/
theorem sendAll_transfers (word : WordSize) (senders : List Sender) (memory : Memory) :
    Transfers (fun _ => True) (fun _ _ => True) (sendAll word senders) memory
      (fun _ exchange _ => exchange.flatMap Transfer.written =
        (senders.map Sender.message).flatMap ClientMessage.encode) := by
  induction senders generalizing memory with
  | nil => exact Proceeds.done rfl
  | cons sender senders inductionHypothesis =>
    refine Proceeds.sequence ((sender.routine_transfers word (fun _ => trivial)
      (fun _ => trivial)).weaken (fun _ _ _ => trivial) (fun _ _ _ => id)) ?_
    rintro ⟨⟩ exchange middle ⟨rfl, -⟩
    apply (inductionHypothesis middle).returning
    intro _ later _ rest
    rw [List.flatMap_append, flatMap_written_sent, sender.buffers_flatten, rest, List.map_cons,
      List.flatMap_cons]

end OpenVnc
