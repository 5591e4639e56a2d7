import OpenVnc.Primitives
import OpenVnc.SocketCalls

/-!
# The open sockets of a client

Beside every routine runs the ledger of the open sockets. Those of the client, that of its
transport, and those of the other clients make up the whole.
-/

namespace OpenVnc

open Interaction Interaction.Program

/-- The socket that a client has open, if it has one. -/
def Client.sockets (client : Client) : Multiset Socket :=
  match client.transport with
  | none => 0
  | some transport => if transport.sock = invalidSocket then 0 else {transport.sock}

/-- The open sockets are the client's own and those of others, and the client does not use a
transport before it is connected. -/
structure SocketsLinked (others opened : Multiset Socket) (memory : Memory) : Prop where
  opened : opened = memory.client.sockets + others
  usable : ∀ transport, memory.client.transport = some transport → transport.sock ≠ invalidSocket

section Linking

variable {others opened : Multiset Socket} {memory memory' : Memory}

/-- Only the transport matters. -/
theorem SocketsLinked.of_transport (linked : SocketsLinked others opened memory)
    (same : memory'.client.transport = memory.client.transport) :
    SocketsLinked others opened memory' where
  opened := by
    rw [linked.opened]
    simp only [Client.sockets, same]
  usable transport attached := linked.usable transport (same.symm.trans attached)

/-- A client without a transport has no socket. -/
theorem SocketsLinked.of_detached (detached : memory.client.transport = none) :
    SocketsLinked opened opened memory where
  opened := by simp [Client.sockets, detached]
  usable transport attached := absurd (detached.symm.trans attached) (by simp)

/-- The client's own socket is open. -/
theorem SocketsLinked.own (linked : SocketsLinked others opened memory) {transport : Transport}
    (attached : memory.client.transport = some transport) : memory.client.sock ∈ opened := by
  have valid := linked.usable transport attached
  rw [linked.opened]
  simp [Client.sockets, Client.sock, attached, valid]

end Linking

section Routines

variable {outside : (request : Request) → Answer request → Prop}

/-- A routine that keeps in step with the open sockets. -/
abbrev KeepsTrack {α : Type} (outside : (request : Request) → Answer request → Prop)
    (opened : Multiset Socket) (routine : Routine α) (memory : Memory)
    (passed : α → Multiset Socket → Memory → Prop)
    (settled : Error → Multiset Socket → Memory → Prop) : Prop :=
  Shadows (OnPosix outside) requestLedger (fun _ => True) opened routine memory passed settled

variable {others opened : Multiset Socket} {memory : Memory}

/-- The dereference returns the transport that is there and opens or closes nothing. Without one
it faults, which is tolerated here. -/
theorem derefTransport_tracks {settled : Error → Multiset Socket → Memory → Prop} :
    KeepsTrack outside opened derefTransport memory (fun transport reached final =>
      memory.client.transport = some transport ∧ reached = opened ∧ final = memory) settled := by
  apply Shadows.load
  cases attached : memory.client.transport with
  | none => exact Shadows.fault trivial
  | some transport => exact Shadows.done ⟨rfl, rfl, rfl⟩

/-- A transfer over an attached transport, and what follows it. -/
theorem transfer_tracks {α : Type} {request : Request} {following : Answer request → Routine α}
    {passed : α → Multiset Socket → Memory → Prop}
    {settled : Error → Multiset Socket → Memory → Prop}
    (unmoved : ∀ answer, requestLedger opened ⟨memory, request, answer⟩ = some opened)
    (continues : ∀ answer, KeepsTrack outside opened (following answer) memory passed settled) :
    KeepsTrack outside opened (sequence (ask request) following) memory passed settled :=
  Shadows.asking (fun answer _ => ⟨opened, unmoved answer, continues answer⟩)

/-- Destroying the transport closes the client's socket. -/
theorem transportDestroy_tracks (ledger : opened = memory.client.sockets + others)
    {settled : Error → Multiset Socket → Memory → Prop} :
    KeepsTrack outside opened transportDestroy memory (fun _ reached final => reached = others ∧
      final = { memory with client := { memory.client with transport := none } }) settled := by
  apply Shadows.load
  cases attached : memory.client.transport with
  | none =>
    refine Shadows.done ⟨by simpa [Client.sockets, attached] using ledger, ?_⟩
    rw [← attached]
  | some transport =>
    refine Shadows.through (fun _ reached final => reached = others ∧ final = memory)
      (Shadows.onlyIf (fun valid => ?_) (fun invalid => ?_)) ?_
    · have own : opened = transport.sock ::ₘ others := by
        simpa [Client.sockets, attached, valid] using ledger
      refine Shadows.through (fun _ reached final => reached = others ∧ final = memory)
        (Shadows.ask (fun closed _ => ⟨others, ?_, rfl, rfl⟩)) (fun _ _ _ held => Shadows.done held)
      simp [requestLedger, valid, own]
    · exact ⟨by simpa [Client.sockets, attached, not_not.mp invalid] using ledger, rfl⟩
    · rintro ⟨⟩ reached final ⟨rfl, rfl⟩
      exact Shadows.update ⟨rfl, rfl⟩

/-- So does disconnecting. -/
theorem clientDisconnect_tracks :
    Shadowed (OnPosix outside) requestLedger (SocketsLinked others) (fun _ => True)
      clientDisconnect := by
  intro opened memory linked
  apply Shadows.load
  refine Shadows.onlyIf (fun connected => ?_) (fun _ => linked)
  refine Shadows.sequence (transportDestroy_tracks linked.opened) ?_
  rintro ⟨⟩ reached final ⟨rfl, rfl⟩
  refine Shadows.through (fun _ => SocketsLinked reached)
    (Shadows.update (SocketsLinked.of_detached rfl)) (fun _ _ _ linked => ?_)
  refine Shadows.update (linked.of_transport ?_)
  split <;> rfl

/-- The primitives keep in step, and the client's socket its place. -/
theorem primitive_tracks {α : Type} {routine : Routine α} (primitive : Primitive α routine) :
    Shadowed (OnPosix outside) requestLedger (SocketsLinked others) (fun _ => True) routine := by
  intro opened memory linked
  cases primitive with
  | recv len =>
    refine Shadows.sequence derefTransport_tracks ?_
    rintro transport reached final ⟨attached, rfl, rfl⟩
    refine transfer_tracks (fun _ => if_pos (linked.own attached)) ?_
    rintro (bytes | ⟨received, error⟩)
    · exact Shadows.done linked
    · exact Shadows.fail linked
  | recvPixels offset len =>
    refine Shadows.sequence derefTransport_tracks ?_
    rintro transport opened memory ⟨attached, rfl, rfl⟩
    apply Shadows.load
    refine Shadows.through (fun _ reached final => reached = opened ∧ final = memory)
      (Shadows.faultIf (fun _ => trivial) (fun _ => ⟨rfl, rfl⟩)) ?_
    rintro ⟨⟩ reached final ⟨rfl, rfl⟩
    refine transfer_tracks (fun _ => if_pos (linked.own attached)) ?_
    rintro (bytes | ⟨received, error⟩)
    · exact Shadows.update (linked.of_transport rfl)
    · exact Shadows.through (fun _ => SocketsLinked others)
        (Shadows.update (linked.of_transport rfl))
        (fun _ _ _ linked => Shadows.fail linked)
  | recvName len =>
    refine Shadows.sequence derefTransport_tracks ?_
    rintro transport opened memory ⟨attached, rfl, rfl⟩
    refine Shadows.through (fun _ reached final => reached = opened ∧ final = memory)
      (Shadows.faultIf (fun _ => trivial) (fun _ => ⟨rfl, rfl⟩)) ?_
    rintro ⟨⟩ reached final ⟨rfl, rfl⟩
    refine transfer_tracks (fun _ => if_pos (linked.own attached)) ?_
    rintro (bytes | ⟨received, error⟩)
    · exact Shadows.update (linked.of_transport rfl)
    · exact Shadows.through (fun _ => SocketsLinked others)
        (Shadows.update (linked.of_transport rfl))
        (fun _ _ _ linked => Shadows.fail linked)
  | send data =>
    refine Shadows.sequence derefTransport_tracks ?_
    rintro transport reached final ⟨attached, rfl, rfl⟩
    refine transfer_tracks (fun _ => if_pos (linked.own attached)) ?_
    rintro (⟨⟩ | ⟨written, error⟩)
    · exact Shadows.done linked
    · exact Shadows.fail linked
  | store request stored =>
    refine Shadows.ask (fun answer _ => ⟨opened, ?_, linked⟩)
    cases request <;> first | rfl | cases stored
  | change unseen =>
    exact Shadows.update (linked.of_transport (congrArg Standing.transport (unseen memory)))
  | fire call =>
    apply Shadows.load
    refine Shadows.onlyIf (fun _ => ?_) (fun _ => linked)
    apply transfer_tracks (fun _ => rfl)
    intro disconnects
    exact Shadows.onlyIf (fun _ => clientDisconnect_tracks _ _ linked) (fun _ => linked)
  | disconnect => exact clientDisconnect_tracks _ _ linked

/-- So does whatever is composed of them. -/
theorem built_tracks {α : Type} {routine : Routine α} (built : Built routine) :
    Shadowed (OnPosix outside) requestLedger (SocketsLinked others) (fun _ => True) routine :=
  built.lifted (Shadowed.compositional (fun _ _ => trivial)) primitive_tracks

/-- An attempt that is abandoned leaves the sockets of others open. -/
theorem abandonConnect_tracks (error : Error)
    (ledger : opened = memory.client.sockets + others) :
    KeepsTrack outside opened (abandonConnect error : Routine Unit) memory
      (fun _ => SocketsLinked others) (fun _ => SocketsLinked others) := by
  refine Shadows.sequence (transportDestroy_tracks ledger) ?_
  rintro ⟨⟩ reached final ⟨rfl, rfl⟩
  refine Shadows.through (fun _ => SocketsLinked reached)
    (Shadows.update (SocketsLinked.of_detached ?_))
    (fun _ _ _ linked => Shadows.fail linked)
  split <;> rfl

/-- The handshake on an open connection. -/
theorem connectHandshake_tracks (word : WordSize) (linked : SocketsLinked others opened memory) :
    KeepsTrack outside opened (connectHandshake word) memory (fun _ => SocketsLinked others)
      (fun _ => SocketsLinked others) := by
  have shaken : KeepsTrack outside opened (handshake word) memory (fun _ => SocketsLinked others)
      (fun _ => SocketsLinked others) :=
    built_tracks (built_of_parts HandshakePart.built (handshake_parts word)) opened memory linked
  refine Shadows.through (fun _ => SocketsLinked others) shaken.attempt ?_
  rintro (error | ⟨⟩) reached final linked
  · exact abandonConnect_tracks error linked.opened
  · exact Shadows.update (linked.of_transport rfl)

/-- A connection that is opened has a socket of its own, and one that is not has none. -/
theorem connectTransport_tracks (word : WordSize)
    (created : memory.client.transport = some ⟨invalidSocket⟩) :
    KeepsTrack outside others (connectTransport word) memory (fun _ => SocketsLinked others)
      (fun _ => SocketsLinked others) := by
  have dialled : KeepsTrack outside others transportConnect memory (fun _ => SocketsLinked others)
      (fun _ reached final => reached = others ∧ final = memory) := by
    refine Shadows.sequence derefTransport_tracks ?_
    rintro transport reached final ⟨attached, rfl, rfl⟩
    apply Shadows.load
    refine Shadows.asking (fun answer given => ?_)
    cases answer with
    | error error => exact ⟨_, rfl, Shadows.fail ⟨rfl, rfl⟩⟩
    | ok sock =>
      have valid : sock ≠ invalidSocket := by
        have open_ : (0 : Int) ≤ sock := given
        rintro rfl
        exact absurd open_ (by decide)
      refine ⟨_, rfl, Shadows.update ⟨by simp [Client.sockets, valid], ?_⟩⟩
      rintro transport ⟨⟩
      exact valid
  refine dialled.attempting (fun _ _ _ linked => connectHandshake_tracks word linked) ?_
  rintro error reached final ⟨rfl, rfl⟩
  exact abandonConnect_tracks error (by simp [Client.sockets, created])

/-- `ovnc_client_connect`: a client that has been connected has its socket open, and no other
client has. -/
theorem clientConnect_tracks (word : WordSize)
    (detached : memory.client.state = .created → memory.client.transport = none)
    (linked : SocketsLinked others opened memory) :
    KeepsTrack outside opened (clientConnect word) memory (fun _ => SocketsLinked others)
      (fun _ => SocketsLinked others) := by
  apply Shadows.load
  refine Shadows.through (fun _ reached final => reached = opened ∧ final = memory ∧
    memory.client.state = .created)
    (Shadows.failIf (fun _ => linked) (fun created => ⟨rfl, rfl, not_not.mp created⟩)) ?_
  rintro ⟨⟩ opened memory ⟨rfl, rfl, created⟩
  obtain rfl : opened = others := by
    simpa [Client.sockets, detached created] using linked.opened
  refine Shadows.through (fun _ reached final => reached = opened ∧
    final.client.transport = none) (Shadows.update ⟨rfl, detached created⟩) ?_
  rintro ⟨⟩ opened memory ⟨rfl, detached⟩
  have creates : KeepsTrack outside opened transportCreate memory
      (fun _ reached final => reached = opened ∧
        final.client.transport = some ⟨invalidSocket⟩)
      (fun _ reached final => reached = opened ∧ final = memory) := by
    refine transfer_tracks (fun _ => rfl) (fun allocated => ?_)
    refine Shadows.through (fun _ reached final => reached = opened ∧ final = memory)
      (Shadows.failIf (fun _ => ⟨rfl, rfl⟩) (fun _ => ⟨rfl, rfl⟩)) ?_
    rintro ⟨⟩ opened memory ⟨rfl, rfl⟩
    exact Shadows.update ⟨rfl, rfl⟩
  apply creates.attempting
  · rintro ⟨⟩ reached final ⟨rfl, attached⟩
    exact connectTransport_tracks word attached
  · rintro error reached final ⟨rfl, rfl⟩
    refine Shadows.through (fun _ => SocketsLinked reached)
      (Shadows.update (SocketsLinked.of_detached ?_))
      (fun _ _ _ linked => Shadows.fail linked)
    split <;> exact detached

/-- Every call keeps in step. -/
theorem perform_tracks (word : WordSize) (bound : Nat) (call : ApiCall)
    (detached : memory.client.state = .created → memory.client.transport = none)
    (linked : SocketsLinked others opened memory) :
    KeepsTrack outside opened (perform word bound call) memory (fun _ => SocketsLinked others)
      (fun _ => SocketsLinked others) := by
  by_cases connecting : call = .connect
  · subst connecting
    exact clientConnect_tracks word detached linked
  · exact built_tracks (perform_built word bound connecting) opened memory linked

/-- `ovnc_client_destroy` leaves the sockets of others open, if only a connected client has a
transport. -/
theorem clientDestroy_tracks (ledger : opened = memory.client.sockets + others)
    (attached : memory.client.transport.isSome → memory.client.state = .connected) :
    KeepsTrack outside opened clientDestroy memory (fun _ reached _ => reached = others)
      (fun _ _ _ => False) := by
  have hangsUp : KeepsTrack outside opened clientDisconnect memory
      (fun _ reached _ => reached = others) (fun _ _ _ => False) := by
    apply Shadows.load
    refine Shadows.onlyIf (fun connected => ?_) (fun idle => ?_)
    · refine Shadows.sequence (transportDestroy_tracks ledger) ?_
      rintro ⟨⟩ reached final ⟨rfl, -⟩
      exact Shadows.through (fun _ opened _ => opened = reached) (Shadows.update rfl)
        (fun _ _ _ same => Shadows.update same)
    · have detached : memory.client.transport = none :=
        Option.not_isSome_iff_eq_none.mp (fun some => idle (attached some))
      simpa [Client.sockets, detached] using ledger
  refine Shadows.sequence hangsUp ?_
  rintro ⟨⟩ reached final rfl
  apply Shadows.load
  refine Shadows.onlyIf (fun _ => ?_) (fun _ => rfl)
  cases final.client.framebuffer.data with
  | none => exact Shadows.done rfl
  | some block => exact transfer_tracks (fun _ => rfl) (fun _ => Shadows.done rfl)

end Routines

end OpenVnc
