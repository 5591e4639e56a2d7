import OpenVnc.ClientMessages
import OpenVnc.Feed
import OpenVnc.Codec.Reactors

/-!
# The two sides of a handshake

A client's routine and a conforming server as the two parties of a network. The client
moves by the instructions of its routine, against a host whose unread bytes are the
channel from the server; a receive is a move once all its bytes have arrived. The server
follows the exchange of the protocol's documentation: what it sends and what it waits for
depend on the version the client has chosen.
-/

namespace OpenVnc

open Interaction Interaction.Program Codec

/-! ## The client -/

/-- What is left of the client's routine, its memory, and its part of the host's world. -/
structure ClientSide where
  routine : Routine Unit
  memory : Memory
  fired : List Callback := []
  clock : Nat := 0

namespace ClientSide

variable (host : Host)

/-- The next instruction of the routine, with what is left of the input and what is sent. -/
def move (client : ClientSide) (input : List UInt8) :
    Option (ClientSide × List UInt8 × List UInt8) :=
  match client.routine with
  | .loading next => some ({ client with routine := next client.memory }, input, [])
  | .storing memory next => some ({ client with routine := next, memory := memory }, input, [])
  | .asking request next =>
      match host.feed request ⟨input, [], client.fired, client.clock⟩ with
      | (some answer, feed) =>
          some (⟨next answer, client.memory, feed.fired, feed.clock⟩, feed.unread, feed.sent)
      | (none, _) => none
  | .done _ | .failing _ | .faulting _ | .stalled => none

/-- An answer of the host stays the same when more bytes have arrived. -/
theorem feed_stable {request : Request} {feed later : Feed} {answer : Answer request}
    (answered : host.feed request feed = (some answer, later)) (more : List UInt8) :
    host.feed request { feed with unread := feed.unread ++ more } =
      (some answer, { later with unread := later.unread ++ more }) := by
  cases request with
  | recv len =>
    simp only [Host.feed] at answered ⊢
    split at answered
    · next enough =>
      obtain ⟨rfl, rfl⟩ := by simpa using answered
      have longer : len ≤ (feed.unread ++ more).length := by
        rw [List.length_append]
        omega
      rw [if_pos longer, List.take_append_of_le_length enough, List.drop_append_of_le_length enough]
    · cases answered
  | _ =>
    cases answered
    rfl

/-- The client as a party. -/
def party : Party ClientSide UInt8 where
  move := move host
  stable := by
    intro client input next rest output moves more
    obtain ⟨routine, memory, fired, clock⟩ := client
    cases routine with
    | loading | storing =>
      obtain ⟨rfl, rfl, rfl⟩ := by simpa [move] using moves
      rfl
    | asking request following =>
      simp only [move] at moves ⊢
      split at moves
      · next answer feed answered =>
        obtain ⟨rfl, rfl, rfl⟩ := by simpa using moves
        rw [feed_stable host answered more]
      · cases moves
    | _ => cases moves

/-- What was sent before has no influence on an answer. -/
theorem feed_sent {request : Request} {input sent : List UInt8} {fired : List Callback}
    {clock : Nat} {answer : Answer request} {later : Feed}
    (answered : host.feed request ⟨input, sent, fired, clock⟩ = (some answer, later)) :
    ∃ output, later.sent = sent ++ output ∧
      host.feed request ⟨input, [], fired, clock⟩ =
        (some answer, { later with sent := output }) := by
  cases request with
  | recv len =>
    simp only [Host.feed] at answered ⊢
    split at answered
    · next enough =>
      obtain ⟨rfl, rfl⟩ := by simpa using answered
      exact ⟨[], (List.append_nil sent).symm, if_pos enough⟩
    · cases answered
  | send data =>
    cases answered
    exact ⟨data, rfl, rfl⟩
  | _ =>
    cases answered
    exact ⟨[], (List.append_nil sent).symm, rfl⟩

/-- A run of a first part is a number of moves, and its output is what it appends to what
was sent. -/
theorem advances_run {α : Type} {first : Routine α} (following : α → Routine Unit) {value : α}
    {memory final : Memory} {input sent : List UInt8} {fired : List Callback} {clock : Nat}
    {later : Feed}
    (ran : first.run host.feed memory ⟨input, sent, fired, clock⟩ =
      (.returned value, final, later)) :
    ∃ output, later.sent = sent ++ output ∧
      (party host).Advances ⟨sequence first following, memory, fired, clock⟩ input
        ⟨following value, final, later.fired, later.clock⟩ later.unread output := by
  induction first generalizing memory input sent fired clock with
  | done result =>
    obtain ⟨rfl, rfl, rfl⟩ := by simpa using ran
    exact ⟨[], (List.append_nil sent).symm, .refl _ _⟩
  | failing | faulting | stalled => cases ran
  | loading next inductionHypothesis =>
    obtain ⟨output, appended, moves⟩ := inductionHypothesis memory ran
    exact ⟨output, appended, .silent rfl moves⟩
  | storing written next inductionHypothesis =>
    obtain ⟨output, appended, moves⟩ := inductionHypothesis ran
    exact ⟨output, appended, .silent rfl moves⟩
  | asking request next inductionHypothesis =>
    rw [run] at ran
    split at ran
    · cases ran
    · next answer middle answered =>
      obtain ⟨front, begun, alone⟩ := feed_sent host answered
      obtain ⟨back, appended, moves⟩ := inductionHypothesis answer ran
      refine ⟨front ++ back, by rw [appended, begun, List.append_assoc], ?_⟩
      refine .head ?_ moves
      change (match host.feed request ⟨input, [], fired, clock⟩ with
        | (some answer, feed) => _
        | (none, _) => none) = _
      rw [alone]

/-- A run that has sent nothing yet. -/
theorem advances_of_run {α : Type} {first : Routine α} (following : α → Routine Unit) {value : α}
    {memory final : Memory} {input rest output : List UInt8} {fired fired' : List Callback}
    {clock clock' : Nat}
    (ran : first.run host.feed memory ⟨input, [], fired, clock⟩ =
      (.returned value, final, ⟨rest, output, fired', clock'⟩)) :
    (party host).Advances ⟨sequence first following, memory, fired, clock⟩ input
      ⟨following value, final, fired', clock'⟩ rest output := by
  obtain ⟨sent, rfl, moves⟩ := advances_run host following ran
  exact moves

end ClientSide

/-- The messages a client sends of its own accord: SetPixelFormat when a format was
configured, SetEncodings when a nonempty list was. -/
def initialMessages (client : Client) : List ClientMessage :=
  (client.pixelFormat.map ClientMessage.setPixelFormat).toList ++
    ((client.encodings.filter (fun encodings => encodings ≠ [])).map
      ClientMessage.setEncodings).toList

/-! ## The server -/

/-- What a conforming server brings to a handshake: the version it greets with, its list
of security types, which contains None and is not sent in version 3.3, its framebuffer and
its name. It sends some bytes of its own accord right after ServerInit. -/
structure Offer where
  version : RfbVersion
  types : List UInt8
  width : UInt16
  height : UInt16
  format : PixelFormat
  name : List UInt8
  following : List UInt8
  known : version ≠ .unset
  offersNone : 1 ∈ types
  count : types.length ≤ 255
  supported : format.Supported
  nameFits : name.length < 2 ^ 32

namespace Offer

variable (offer : Offer)

/-- The versions a client can answer with. -/
def versions : List RfbVersion :=
  match offer.version with
  | .v38 => [.v38, .v37, .v33]
  | .v37 => [.v37, .v33]
  | .v33 | .unset => [.v33]

/-- The security types: the choice of the server in version 3.3, a list after that. -/
def securityTypes : RfbVersion → List UInt8
  | .v37 | .v38 => [UInt8.ofNat offer.types.length] ++ offer.types
  | .v33 | .unset => writeU32 1

/-- SecurityResult for the type None, which is sent in version 3.8 only. -/
def securityResult : RfbVersion → List UInt8
  | .v38 => writeU32 0
  | .v37 | .v33 | .unset => []

/-- The fixed part of ServerInit. -/
def serverInitHeader : List UInt8 :=
  writeU16 offer.width ++ (writeU16 offer.height ++ (offer.format.toWire ++
    writeU32 (UInt32.ofNat offer.name.length)))

/-- ServerInit. -/
def serverInit : List UInt8 := offer.serverInitHeader ++ offer.name

end Offer

/-- What the server waits for. -/
inductive ServerPhase where
  | greeting
  | version
  | selection
  | clientInit
  | messages
  | refused
deriving DecidableEq, Repr

/-- The server, with what it has learned from the client. -/
structure HandshakeServer where
  phase : ServerPhase := .greeting
  version : RfbVersion := .unset
  security : SecurityType := .invalid
  shared : Option UInt8 := none
  format : PixelFormat
  encodings : List EncodingType := []

namespace HandshakeServer

/-- The reaction to the client's version. In version 3.3 no selection follows. -/
def choose (server : HandshakeServer) (offer : Offer) (bytes : List UInt8) :
    HandshakeServer × List UInt8 :=
  match offer.versions.find? (fun version => versionString version = bytes) with
  | none => ({ server with phase := .refused }, [])
  | some .v33 => ({ server with phase := .clientInit, version := .v33, security := .none },
      offer.securityTypes .v33)
  | some version => ({ server with phase := .selection, version := version },
      offer.securityTypes version)

/-- The reaction to the selection. Only None is followed here. -/
def select (server : HandshakeServer) (selected : UInt8) : HandshakeServer × List UInt8 :=
  if selected = 1 then
    ({ server with phase := .clientInit, security := .none }, Offer.securityResult server.version)
  else ({ server with phase := .refused }, [])

/-- The reaction to a message. -/
def handle (server : HandshakeServer) : ClientMessage → HandshakeServer
  | .setPixelFormat format => { server with format := format }
  | .setEncodings encodings => { server with encodings := encodings }
  | _ => server

/-- What the server reads in each phase, and its next state and answer. -/
def serve (offer : Offer) (server : HandshakeServer) :
    Decoder UInt8 (HandshakeServer × List UInt8) :=
  match server.phase with
  | .greeting => return ({ server with phase := .version }, versionString offer.version)
  | .version => return server.choose offer (← Decoder.take 12)
  | .selection => return server.select (← Grammar.u8)
  | .clientInit => return ({ server with phase := .messages, shared := some (← Grammar.u8) },
      offer.serverInit ++ offer.following)
  | .messages => return (server.handle (← Grammar.clientMessage), [])
  | .refused => failure

/-- What the server makes of the bytes it has does not change when more arrive. -/
theorem serve_stable (offer : Offer) (server : HandshakeServer) : (serve offer server).Stable := by
  unfold serve
  split
  · exact Decoder.Stable.pure _
  · exact (Decoder.Stable.take 12).bind_pure _
  · exact Grammar.u8_stable.bind_pure _
  · exact Grammar.u8_stable.bind_pure (fun shared =>
      ({ server with phase := .messages, shared := some shared }, _))
  · exact Grammar.clientMessage_stable.bind_pure _
  · exact Decoder.Stable.failure

/-- The server as a party. -/
def party (offer : Offer) : Party HandshakeServer UInt8 :=
  Decoder.party (serve offer) (serve_stable offer)

end HandshakeServer

end OpenVnc
