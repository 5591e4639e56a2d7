import OpenVnc.SendCalls
import OpenVnc.Properties.ServerName

/-!
# Lists of encodings and their count

The count field of SetEncodings has 16 bits, and a list of encodings can be of any length. What
is sent for a list, by `ovnc_client_set_encodings` or by the handshake for a configured list, is
a message with that list exactly when its length fits the field; no longer list is refused.
-/

namespace OpenVnc

open Interaction Interaction.Program Codec

/-! ## Messages that announce a list -/

/-- The message counts the encodings and then lists each of them with four bytes, so that a
server that has read it is back on a message boundary. -/
structure Announces (encodings : List EncodingType) (message : List UInt8) : Prop where
  kind : message.take 2 = [2, 0]
  count : (readU16 (message.drop 2)).toNat = encodings.length
  entries : message.drop 4 = encodings.flatMap writeS32
  boundary : Reads Grammar.clientMessage message (.setEncodings encodings)

/-- The buffer that is filled for a list announces it exactly when its length fits the field. -/
theorem setEncodingsBuffer_announces_iff (encodings : List EncodingType) :
    Announces encodings (setEncodingsBuffer encodings) ↔ encodings.length ≤ 65535 := by
  have counted : readU16 ((setEncodingsBuffer encodings).drop 2) =
      UInt16.ofNat encodings.length := readU16_writeU16 _ _
  constructor
  · rintro ⟨-, count, -, -⟩
    rw [counted] at count
    have small := UInt16.toNat_lt (UInt16.ofNat encodings.length)
    omega
  · intro few
    have encodable : (ClientMessage.setEncodings encodings).Encodable := Nat.lt_succ_of_le few
    refine ⟨rfl, ?_, rfl, Grammar.reads_clientMessage encodable⟩
    rw [counted]
    exact UInt16.toNat_ofNat_of_lt' (Nat.lt_succ_of_le few)

/-- The entries of SetEncodings are four bytes each. -/
theorem entries_length (encodings : List EncodingType) :
    (encodings.flatMap writeS32).length = 4 * encodings.length := by
  induction encodings with
  | nil => rfl
  | cons encoding rest inductionHypothesis =>
    rw [List.flatMap_cons, List.length_append, inductionHypothesis, writeS32_length,
      List.length_cons]
    omega

/-! ## Operations that send a list -/

/-- How an operation deals with a list that it is to send after some other buffers. It stores
nothing outside the buffer for the message. Either it has handed over no part of the message and
does not return, or it has handed over one message that announces the list; and when it
returns, that message has been sent. -/
structure ListSent (earlier : List (List UInt8)) (encodings : List EncodingType)
    (events : List Step) (outcome : Outcome Error Fault Unit) : Prop where
  within : ∀ fault, outcome ≠ .faulted fault
  sent : attempts events <+: earlier ∧ outcome ≠ .returned () ∨
    ∃ message, attempts events = earlier ++ [message] ∧ Announces encodings message ∧
      (outcome = .returned () → outgoing events = (earlier ++ [message]).flatten)

/-- `ovnc_client_set_encodings` with the list, on any client that has a transport while it is
connected. -/
def SetListSent (word : WordSize) (encodings : List EncodingType) : Prop :=
  ∀ memory events outcome final,
    (memory.client.state = .connected → memory.client.transport ≠ none) →
    Execution Allowed (clientSetEncodings word (some encodings)) memory events outcome final →
    ListSent [] encodings events outcome

/-- `ovnc_client_connect` of any client with the encodings that `ovnc_client_create` has stored
for a configuration with the list. -/
def ConfiguredListSent (word : WordSize) (encodings : List EncodingType) : Prop :=
  ∀ config callbacks record host pixelFormat copied client memory events outcome final,
    config.encodings = some encodings →
    clientCreate config callbacks record host pixelFormat copied = some client →
    memory.client.encodings = client.encodings →
    Execution Allowed (clientConnect word) memory events outcome final →
    ∃ version, version ≠ .unset ∧ ListSent
      (opening version ++ [memory.client.shared] :: memory.standing.formatBuffers) encodings events
      outcome

section Sent

variable {earlier : List (List UInt8)} {encodings : List EncodingType} {events : List Step}
  {outcome : Outcome Error Fault Unit}

/-- An operation that has stopped within its buffers, on a list that fits. -/
theorem ListSent.of_stopped (few : encodings.length ≤ 65535)
    (begun : attempts events <+: earlier ++ [setEncodingsBuffer encodings])
    (within : ∀ fault, outcome ≠ .faulted fault) (stopped : outcome ≠ .returned ()) :
    ListSent earlier encodings events outcome := by
  refine ⟨within, ?_⟩
  rcases List.prefix_concat_iff.mp begun with whole | before
  · exact .inr ⟨_, whole, (setEncodingsBuffer_announces_iff encodings).mpr few,
      fun returned => absurd returned stopped⟩
  · exact .inl ⟨before, stopped⟩

/-- An operation that has returned, on a list that fits. -/
theorem ListSent.of_returned (few : encodings.length ≤ 65535)
    (handed : attempts events = earlier ++ [setEncodingsBuffer encodings])
    (written : outgoing events = (earlier ++ [setEncodingsBuffer encodings]).flatten) :
    ListSent earlier encodings events (.returned ()) :=
  ⟨nofun, .inr ⟨_, handed, (setEncodingsBuffer_announces_iff encodings).mpr few, fun _ => written⟩⟩

/-- A list that is sent as it should be fits, where its buffer is the last one handed over. -/
theorem ListSent.few {handed : List (List UInt8)}
    (sent : ListSent earlier encodings events (.returned ()))
    (last : attempts events = handed ++ [setEncodingsBuffer encodings]) :
    encodings.length ≤ 65535 := by
  apply (setEncodingsBuffer_announces_iff encodings).mp
  rcases sent.sent with ⟨-, unreturned⟩ | ⟨message, last', announces, -⟩
  · exact absurd rfl unreturned
  · have same := congrArg List.getLast? (last.symm.trans last')
    rw [List.getLast?_concat, List.getLast?_concat] at same
    exact Option.some.inj same ▸ announces

end Sent

/-! ### Setting the encodings -/

section Setting

variable (word : WordSize) {encodings : List EncodingType}

/-- The size of the buffer can wrap for a long list only. -/
theorem overruns_long
    (overrun : word.wrap (4 + 4 * encodings.length) < 4 + 4 * encodings.length) :
    ¬ encodings.length ≤ 65535 := by
  intro few
  rw [WordSize.wrap_of_lt (setEncodings_fits word few)] at overrun
  exact absurd overrun (Nat.lt_irrefl _)

/-- `ovnc_client_set_encodings` sends one buffer and nothing else. It may stop before the buffer
is out, and it overruns the buffer only where the list is too long for the count. -/
theorem clientSetEncodings_transfers {memory : Memory}
    (attached : memory.client.state = .connected → memory.client.transport ≠ none) :
    Transfers (fun _ => ¬ encodings.length ≤ 65535) (Unfinished [setEncodingsBuffer encodings])
      (clientSetEncodings word (some encodings)) memory (fun _ exchange _ =>
        exchange = [.sent (setEncodingsBuffer encodings)]) := by
  unfold clientSetEncodings
  by_cases connected : memory.client.state = .connected
  · apply transfers_requireConnected (.inl rfl)
    exact (sendSetEncodings_transfers word encodings
      (fun missing => absurd missing (attached connected)) (overruns_long word)).returning
      (fun _ _ _ held => held.1)
  · exact requireConnected_refuses connected (.inl rfl)

/-- A call that returns has sent the buffer for the list, whatever its length. -/
theorem clientSetEncodings_sent {memory final : Memory} {events : List Step}
    (attached : memory.client.state = .connected → memory.client.transport ≠ none)
    (executed : Execution Allowed (clientSetEncodings word (some encodings)) memory events
      (.returned ()) final) :
    attempts events = [setEncodingsBuffer encodings] ∧
      outgoing events = setEncodingsBuffer encodings := by
  have exchange : transfers events = [.sent (setEncodingsBuffer encodings)] :=
    (wp_iff _ _ _).mp (clientSetEncodings_transfers word attached) _ _ _ executed
  constructor
  · rw [attempts, exchange]
    rfl
  · rw [outgoing, exchange]
    exact List.append_nil _

/-- A list that fits is sent as it should be, or not at all. -/
theorem setListSent_of_few (few : encodings.length ≤ 65535) : SetListSent word encodings := by
  intro memory events outcome final attached executed
  have ended := (wp_iff _ _ _).mp (clientSetEncodings_transfers word attached) _ _ _ executed
  have begun {reason : Option Error}
      (unfinished : Unfinished [setEncodingsBuffer encodings] reason (transfers events)) :
      attempts events <+: [] ++ [setEncodingsBuffer encodings] := by
    rcases unfinished with nothing | interrupted
    · rw [attempts, nothing]
      exact List.nil_prefix
    · exact interrupted.attempts
  cases outcome with
  | faulted fault => exact absurd few ended
  | returned =>
    obtain ⟨handed, written⟩ := clientSetEncodings_sent word attached executed
    exact .of_returned few handed (written.trans (List.append_nil _).symm)
  | failed error => exact .of_stopped few (begun ended) (by simp) (by simp)
  | waiting => exact .of_stopped few (begun ended) (by simp) (by simp)

end Setting

/-! ### A host that refuses nothing -/

/-- A routine that overruns the buffer for a message, or returns. -/
def EndsOverrun (ended : Outcome Error Fault Unit × Memory × Feed) : Prop :=
  ended.1 = .faulted (.outOfBounds .message) ∨ ended.1 = .returned ()

section Running

variable (word : WordSize) {memory : Memory} {transport : Transport}

/-- Where storage is there and the network takes every byte, a list of any length overruns its
buffer or is sent. -/
theorem run_sendSetEncodings_any (attached : memory.client.transport = some transport)
    (encodings : List EncodingType) (feed : Feed) :
    EndsOverrun ((sendSetEncodings word encodings).run plainHost.feed memory feed) := by
  unfold sendSetEncodings
  dsimp only
  rw [bind_eq, run_malloc_then, bind_eq, run_failIf_then, if_neg (by decide), bind_eq,
    run_faultIf_then]
  split
  · exact .inl rfl
  · rw [run_transportSend plainHost attached]
    exact .inr rfl

/-- A connected client that is given the list. -/
def listedMemory : Memory :=
  ⟨{ plainClient {} with state := .connected, transport := some ⟨3⟩ }, 0, 0⟩

/-- On a host that refuses nothing, a call with any list overruns its buffer or returns. -/
theorem run_clientSetEncodings_any (encodings : List EncodingType) (feed : Feed) :
    EndsOverrun ((clientSetEncodings word (some encodings)).run plainHost.feed listedMemory feed) :=
  run_sendSetEncodings_any word rfl encodings feed

/-- On that host a call returns when the buffer's size does not wrap. -/
theorem run_clientSetEncodings {encodings : List EncodingType}
    (fits : 4 + 4 * encodings.length < word.modulus) (feed : Feed) :
    ((clientSetEncodings word (some encodings)).run plainHost.feed listedMemory feed).1 =
      .returned () := by
  have sent : (clientSetEncodings word (some encodings)).run plainHost.feed listedMemory feed = _ :=
    run_sendSetEncodings plainHost word rfl fits feed
  rw [sent]

/-- A list that is set as it should be fits. -/
theorem few_of_setListSent {encodings : List EncodingType} (sent : SetListSent word encodings) :
    encodings.length ≤ 65535 := by
  have executed := run_execution plainHost.feed Allowed plainHost_allowed
    (clientSetEncodings word (some encodings)) listedMemory { unread := [] }
  have attached : listedMemory.client.transport ≠ none := by decide
  have listed := sent _ _ _ _ (fun _ => attached) executed
  rcases run_clientSetEncodings_any word encodings { unread := [] } with overrun | returned
  · exact absurd overrun (listed.within _)
  · rw [returned] at executed
    rw [returned] at listed
    have handed := (clientSetEncodings_sent word (fun _ => attached) executed).1
    exact listed.few (handed.trans (List.nil_append _).symm)

/-- The same for the list that is configured: sending the initial messages overruns the buffer or
returns. -/
theorem run_sendInitialMessages_any {encodings : List EncodingType} (listed : encodings ≠ [])
    (attached : memory.client.transport = some transport)
    (configured : memory.client.encodings = some encodings)
    (unformatted : memory.client.pixelFormat = none) (feed : Feed) :
    EndsOverrun ((sendInitialMessages word).run plainHost.feed memory feed) := by
  unfold sendInitialMessages
  rw [bind_eq, run_load_then, unformatted, configured]
  simp only [onSome, onlyIf, List.length_pos_iff.mpr listed, if_true]
  exact run_sendSetEncodings_any word attached encodings feed

/-- A stage that returns leaves the end to what follows it. -/
theorem EndsOverrun.following {α : Type} {first : Routine α} {following : α → Routine Unit}
    {memory' : Memory} {feed feed' : Feed} {value : α}
    (returned : first.run plainHost.feed memory feed = (.returned value, memory', feed'))
    (ends : EndsOverrun ((following value).run plainHost.feed memory' feed')) :
    EndsOverrun ((sequence first following).run plainHost.feed memory feed) := by
  rw [run_sequence_returned _ returned]
  exact ends

/-- With a configured list of any length the handshake gets as far as the initial messages, where
the buffer is overrun or everything returns. -/
theorem run_handshake_any {encodings : List EncodingType} (listed : encodings ≠ []) :
    EndsOverrun ((handshake word).run plainHost.feed
      ⟨{ plainClient {} with transport := some ⟨3⟩, encodings := some encodings }, 1, 0⟩
      { unread := plainGreeting }) := by
  rw [handshake_turns]
  refine EndsOverrun.following rfl (EndsOverrun.following rfl (EndsOverrun.following rfl ?_))
  rw [sequence_done]
  cases word with
  | bits32 =>
    exact EndsOverrun.following rfl (run_sendInitialMessages_any .bits32 listed rfl rfl rfl _)
  | bits64 =>
    exact EndsOverrun.following rfl (run_sendInitialMessages_any .bits64 listed rfl rfl rfl _)

/-- A client that was created with the list and connects. -/
def listedClient (encodings : List EncodingType) : Client :=
  { plainClient {} with encodings := some encodings }

/-- So does `ovnc_client_connect` as a whole, on a client that has been given a list and nothing
else. -/
theorem run_clientConnect_any {encodings : List EncodingType} (listed : encodings ≠ []) :
    EndsOverrun ((clientConnect word).run plainHost.feed ⟨listedClient encodings, 0, 0⟩
      { unread := plainGreeting }) := by
  have dialled : (clientConnect word).run plainHost.feed ⟨listedClient encodings, 0, 0⟩
      { unread := plainGreeting } = (connectHandshake word).run plainHost.feed
        ⟨{ plainClient {} with transport := some ⟨3⟩, encodings := some encodings }, 1, 0⟩
        { unread := plainGreeting } := rfl
  have shaken := run_handshake_any word listed
  rw [dialled, connectHandshake, bind_eq, run_sequence, run_attempt]
  revert shaken
  generalize (handshake word).run plainHost.feed _ _ = ended
  obtain ⟨outcome, final, feed⟩ := ended
  rintro (rfl | rfl)
  · exact .inl rfl
  · exact .inr rfl

end Running

/-! ### Connecting -/

section Connecting

variable (word : WordSize) {encodings : List EncodingType}

/-- Reading ServerInit sends nothing. -/
theorem ServerInitRead.unwritten {exchange : List Transfer} {info : ConnectionInfo}
    (read : ServerInitRead exchange info) : exchange.flatMap Transfer.written = [] := by
  cases read
  simp [List.flatMap_map]

/-- What a handshake that returns has handed over, and that all of it has been sent. -/
theorem Shaken.attempts {standing : Standing} {exchange : List Transfer} {info : ConnectionInfo}
    (shaken : Shaken standing exchange info) : ∃ version, version ≠ .unset ∧
      exchange.filterMap Transfer.attempt = opening version ++ [standing.shared] ::
        (standing.formatBuffers ++ standing.encodingBuffers) ∧
      exchange.flatMap Transfer.written = (opening version ++ [standing.shared] ::
        (standing.formatBuffers ++ standing.encodingBuffers)).flatten := by
  cases shaken with
  | @shaken version gate received info known admitted read =>
    refine ⟨version, known, ?_, ?_⟩
    · rw [List.filterMap_append, admitted.attempts, @List.filterMap_cons_some _ _ Transfer.attempt
        _ _ _ rfl, List.filterMap_append, read.unsent, List.nil_append, attempts_sent]
    · rw [List.flatMap_append, admitted.written, List.flatMap_cons, List.flatMap_append,
        read.unwritten, List.nil_append, flatMap_written_sent]
      simp

/-- The buffer for a configured list. -/
theorem encodingBuffers_listed {memory : Memory} (listed : encodings ≠ [])
    (configured : memory.client.encodings = some encodings) :
    memory.standing.encodingBuffers = [setEncodingsBuffer encodings] := by
  have kept : memory.standing.encodings.filter (fun encodings => encodings.length > 0) =
      some encodings := by
    rw [show memory.standing.encodings = some encodings from configured]
    exact Option.filter_some_pos (by simpa using List.length_pos_iff.mpr listed)
  rw [Standing.encodingBuffers, kept]
  rfl

/-- Creation stores a list that is not empty. -/
theorem clientCreate_encodings {config : ClientConfig} {callbacks : Option ClientCallbacks}
    {record host pixelFormat copied : Bool} {client : Client} (listed : encodings ≠ [])
    (configured : config.encodings = some encodings)
    (made : clientCreate config callbacks record host pixelFormat copied = some client) :
    client.encodings = some encodings := by
  obtain ⟨name, rfl⟩ := clientCreate_some made
  have kept : config.encodings.filter (fun encodings => encodings.length > 0) = some encodings := by
    rw [configured]
    exact Option.filter_some_pos (by simpa using List.length_pos_iff.mpr listed)
  exact kept

/-- A configured list of at most 65535 encodings is announced as it is, since neither the count
nor the size of the buffer wraps. -/
theorem configuredListSent_of_few (listed : encodings ≠ []) (few : encodings.length ≤ 65535) :
    ConfiguredListSent word encodings := by
  intro config callbacks record host pixelFormat copied client memory events outcome final
    configured made same executed
  have stored := same.trans (clientCreate_encodings listed configured made)
  have ended := (wp_iff _ _ _).mp (clientConnect_transfers word memory) _ _ _ executed
  have regrouped (version : RfbVersion) : opening version ++ [memory.standing.shared] ::
      (memory.standing.formatBuffers ++ memory.standing.encodingBuffers) =
      (opening version ++ [memory.client.shared] :: memory.standing.formatBuffers) ++
        [setEncodingsBuffer encodings] := by
    rw [encodingBuffers_listed listed stored, List.append_assoc]
    rfl
  have partly (shaken : ShakenPartly memory.standing (transfers events)) :
      ∃ version, version ≠ .unset ∧ attempts events <+:
        (opening version ++ [memory.client.shared] :: memory.standing.formatBuffers) ++
          [setEncodingsBuffer encodings] := by
    obtain ⟨version, known, begun⟩ := shaken
    exact ⟨version, known, regrouped version ▸ begun⟩
  cases outcome with
  | faulted fault =>
    obtain ⟨-, unfit⟩ := ended
    refine absurd (fun other chosen => ?_) unfit
    obtain rfl : encodings = other := Option.some.inj (stored.symm.trans chosen)
    exact setEncodings_fits word few
  | returned =>
    obtain ⟨version, known, handed, written⟩ := Shaken.attempts ended.1
    rw [regrouped] at handed written
    exact ⟨version, known, .of_returned few handed written⟩
  | failed error =>
    obtain ⟨version, known, begun⟩ := partly ended
    exact ⟨version, known, .of_stopped few begun nofun nofun⟩
  | waiting =>
    obtain ⟨version, known, begun⟩ := partly ended
    exact ⟨version, known, .of_stopped few begun nofun nofun⟩

/-- A configured list that is sent as it should be fits. -/
theorem few_of_configuredListSent (listed : encodings ≠ [])
    (sent : ConfiguredListSent word encodings) : encodings.length ≤ 65535 := by
  have executed := run_execution plainHost.feed Allowed plainHost_allowed (clientConnect word)
    ⟨listedClient encodings, 0, 0⟩ { unread := plainGreeting }
  have configured : ({ host := some "localhost", encodings := some encodings } :
      ClientConfig).encodings = some encodings := rfl
  have made : clientCreate { host := some "localhost", encodings := some encodings } none true true
      true true = some (freshClient "localhost"
        { host := some "localhost", encodings := some encodings } {}) := by
    simp [clientCreate]
  obtain ⟨version, known, handled⟩ := sent _ _ _ _ _ _ _ _ _ _ _ configured made
    (clientCreate_encodings listed configured made).symm executed
  rcases run_clientConnect_any word listed with overrun | returned
  · exact absurd overrun (handled.within _)
  · rw [returned] at executed
    obtain ⟨shaken, -⟩ := (wp_iff _ _ _).mp (clientConnect_transfers word _) _ _ _ executed
    obtain ⟨version', -, last, -⟩ := Shaken.attempts shaken
    rw [encodingBuffers_listed listed rfl] at last
    rw [returned] at handled
    exact handled.few (last.trans (List.append_assoc (opening version') (_ :: _) _).symm)

end Connecting

/-! ## Lists of any length -/

/-- Both operations send a list as they should exactly when its length fits the count field; an
empty list is not configured. -/
theorem encodings_announced_iff (word : WordSize) (encodings : List EncodingType) :
    (SetListSent word encodings ↔ encodings.length ≤ 65535) ∧
      (encodings ≠ [] → (ConfiguredListSent word encodings ↔ encodings.length ≤ 65535)) := by
  constructor
  · constructor
    · exact few_of_setListSent word
    · exact setListSent_of_few word
  · intro listed
    constructor
    · exact few_of_configuredListSent word listed
    · exact configuredListSent_of_few word listed

/-- A list of two encodings is announced, set by a call or configured beforehand. -/
theorem encodings_announced_iff_two :
    SetListSent .bits64 [encodingRaw, encodingCursor] ∧
      ConfiguredListSent .bits64 [encodingRaw, encodingCursor] :=
  ⟨(encodings_announced_iff .bits64 _).1.mpr (by decide),
    ((encodings_announced_iff .bits64 _).2 (by decide)).mpr (by decide)⟩

/-- One encoding more than the field can count. -/
def uncountedEncodings : List EncodingType := List.replicate 65536 encodingRaw

/-- The call returns, and has sent all the entries after a count of zero. -/
theorem uncountedEncodings_sent :
    (∃ events final, Execution Allowed (clientSetEncodings .bits64 (some uncountedEncodings))
      listedMemory events (.returned ()) final ∧ (outgoing events).take 4 = [2, 0, 0, 0] ∧
      (outgoing events).length = 262148) ∧
    ¬ SetListSent .bits64 uncountedEncodings ∧ ¬ ConfiguredListSent .bits64 uncountedEncodings := by
  have size : uncountedEncodings.length = 65536 := List.length_replicate
  refine ⟨?_, ?_, ?_⟩
  · have executed := run_execution plainHost.feed Allowed plainHost_allowed
      (clientSetEncodings .bits64 (some uncountedEncodings)) listedMemory { unread := [] }
    have fits : 4 + 4 * uncountedEncodings.length < WordSize.bits64.modulus := by
      rw [size]
      decide
    rw [run_clientSetEncodings .bits64 fits] at executed
    have attached : listedMemory.client.transport ≠ none := by decide
    have written := (clientSetEncodings_sent .bits64 (fun _ => attached) executed).2
    refine ⟨_, _, executed, ?_, ?_⟩
    · rw [written, setEncodingsBuffer, size]
      rfl
    · rw [written, setEncodingsBuffer, List.length_append, entries_length, size]
      rfl
  · intro sent
    have few := few_of_setListSent .bits64 sent
    omega
  · intro sent
    have few := few_of_configuredListSent .bits64 (fun empty => by simp [empty] at size) sent
    omega

end OpenVnc
