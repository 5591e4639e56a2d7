import OpenVnc.Sending
import OpenVnc.Feed

/-!
# Sent messages can be read back

Whatever messages the senders send, with whatever arguments, a server that parses the
bytes by the grammar gets these messages with these arguments, and nothing is left over.
The parser accepts no padding but zeros.
-/

namespace OpenVnc

open Interaction Interaction.Program Codec

/-- The bytes of any sequence of successful calls parse to exactly their messages. -/
theorem sendAll_decodes (word : WordSize) {senders : List Sender}
    (counted : ∀ encodings, .setEncodings encodings ∈ senders → encodings.length ≤ 65535)
    {memory final : Memory} {events : List Step}
    (performed : Execution Allowed (sendAll word senders) memory events (.returned ()) final) :
    Decoder.all Grammar.clientMessage (outgoing events) = some (senders.map Sender.message) := by
  have sent : outgoing events = (senders.map Sender.message).flatMap ClientMessage.encode :=
    (wp_iff _ _ _).mp (sendAll_transfers word senders memory) _ _ _ performed
  rw [sent]
  apply all_flatMap
  · intro message member
    obtain ⟨sender, called, rfl⟩ := List.mem_map.mp member
    apply Grammar.reads_clientMessage
    apply Sender.encodable
    rintro encodings rfl
    exact counted encodings called
  · exact fun message _ => message.encode_ne_nil

/-- A format, two encodings, a key and a text of which the last byte is not sent. -/
def assortedSenders : List Sender :=
  [.setPixelFormat .initDefault, .setEncodings [encodingRaw, encodingCursor],
    .keyEvent 0xff0d 1, .clientCutText [104, 105, 0] 2 (by decide)]

/-- The four senders of the example complete on the plain host, and what was sent is parsed back
into their messages. -/
theorem sendAll_decodes_assorted : ∃ events final,
    Execution Allowed (sendAll .bits64 assortedSenders) (plainConnected {}).2.1 events
        (.returned ()) final ∧
      Decoder.all Grammar.clientMessage (outgoing events) =
        some (assortedSenders.map Sender.message) := by
  have execution := run_execution plainHost.feed Allowed
    (fun request feed answer later answered =>
      (plainHost.feed_provisioned request feed answer later answered).1)
    (sendAll .bits64 assortedSenders) (plainConnected {}).2.1 { unread := [] }
  have returned : ((sendAll .bits64 assortedSenders).run plainHost.feed (plainConnected {}).2.1
      { unread := [] }).1 = .returned () := by decide
  rw [returned] at execution
  refine ⟨_, _, execution, sendAll_decodes .bits64 ?_ execution⟩
  intro encodings member
  obtain rfl : encodings = [encodingRaw, encodingCursor] := by simpa [assortedSenders] using member
  decide

end OpenVnc
