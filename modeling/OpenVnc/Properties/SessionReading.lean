import OpenVnc.Properties.GreetingReading
import OpenVnc.Properties.StreamReading

/-!
# A whole session on any stream

What a fresh client makes of all the bytes of a server that accepts its connection, from the
first one on. `ovnc_client_connect` takes the greeting, `ovnc_client_run` the messages behind
it; a stream that begins with no greeting for the client is refused, and the client is as it
was.
-/

namespace OpenVnc

open Interaction Interaction.Program

/-- A client that has connected. -/
def Memory.joined (memory : Memory) (host : Host) (version : RfbVersion) (init : ServerInit)
    (framebuffer : Framebuffer) : Memory :=
  { memory with
    client := { memory.client with
      state := .connected
      transport := some ⟨host.socket⟩
      connInfo := init.learned { memory.client.connInfo with
        rfbVersion := version, securityType := .none }
      framebuffer := framebuffer }
    platformInitCount := memory.platformInitCount + 1 }

/-- A client whose connection has been made. -/
def Memory.dialled (memory : Memory) (host : Host) : Memory :=
  { memory with
    client := { memory.client with transport := some ⟨host.socket⟩ }
    platformInitCount := memory.platformInitCount + 1 }

section Sessions

variable (host : Host) (error : Error) (memory : Memory)

/-- The session on an accepted stream: the client connects, with the replies that belong to
the greeting, and its message loop reads the rest. -/
def SessionReads (version : RfbVersion) (init : ServerInit) (input rest : List UInt8) : Prop :=
  ∃ framebuffer clock,
    (framebuffer.extent = ⟨init.width, init.height⟩ ∧
      framebuffer.format = memory.client.pixelFormat.getD init.format ∧ framebuffer.Coherent) ∧
    (clientConnect .bits64).run (host.ending error) memory { unread := input } =
      (.returned (), memory.joined host version init framebuffer,
        ⟨rest, greetingReplies memory.client version, [], clock⟩) ∧
    ∀ bound, rest.length < bound → ∃ messages updates left,
      Reading framebuffer.format.pixelBytes framebuffer.extent rest messages updates left ∧
      LoopEnds error memory.client.callbacks
        ((messages.flatMap ServerMessage.callbacks ++ updates.map RectUpdate.callback).filter
          memory.client.callbacks.has) left
        ((clientRun .bits64 bound).run (host.ending error)
          (memory.joined host version init framebuffer)
          ⟨rest, greetingReplies memory.client version, [], clock⟩)

/-- The session on a refused stream: the client fails to connect and is as it was. -/
def SessionRefuses (input replies : List UInt8) (reason : Error) : Prop :=
  ∃ final left clock,
    (clientConnect .bits64).run (host.ending error) memory { unread := input } =
      (.failed reason, final, ⟨left, replies, [], clock⟩) ∧
    final.standing = memory.standing

variable {memory}

/-- A server that accepts the connection leaves the rest to the handshake. -/
theorem run_clientConnect_accepted (word : WordSize) (created : memory.client.state = .created)
    (feed : Feed) :
    (clientConnect word).run (host.ending error) memory feed =
      (connectHandshake word).run (host.ending error) (memory.dialled host) feed := by
  rw [clientConnect, bind_eq, run_load_then, bind_eq, run_failIf_then,
    if_neg (not_not.mpr created)]
  rfl

/-- Giving up closes the connection and returns the error. -/
theorem run_abandonConnect (reason : Error) (feed : Feed) : ∃ final,
    (abandonConnect reason : Routine Unit).run (host.ending error) memory feed =
      (.failed reason, final, feed) := by
  rw [abandonConnect, bind_eq, transportDestroy, bind_eq, sequence_assoc, run_load_then]
  cases memory.client.transport with
  | none => exact ⟨_, rfl⟩
  | some transport =>
    by_cases opened : transport.sock ≠ invalidSocket
    · simp only [onlyIf, if_pos opened]
      exact ⟨_, rfl⟩
    · simp only [onlyIf, if_neg opened]
      exact ⟨_, rfl⟩

/-- An accepted greeting is taken by `ovnc_client_connect`. -/
theorem clientConnect_takes (created : memory.client.state = .created)
    (few : ∀ encodings, memory.client.encodings = some encodings → encodings.length ≤ 65535)
    {version : RfbVersion} {init : ServerInit} {input rest : List UInt8}
    (accepts : Accepts memory.client.pixelFormat input version init rest) :
    ∃ framebuffer clock,
      (clientConnect .bits64).run (host.ending error) memory { unread := input } =
        (.returned (), memory.joined host version init framebuffer,
          ⟨rest, greetingReplies memory.client version, [], clock⟩) ∧
      framebuffer.extent = ⟨init.width, init.height⟩ ∧
      framebuffer.format = memory.client.pixelFormat.getD init.format ∧
      framebuffer.Coherent := by
  obtain ⟨framebuffer, later, shaken, made⟩ := @handshake_takes host error
    (memory.dialled host) ⟨host.socket⟩ input [] [] 0 rfl few version init rest accepts
  refine ⟨framebuffer, later, ?_, made⟩
  rw [run_clientConnect_accepted host error .bits64 created, connectHandshake, bind_eq,
    run_sequence, run_attempt, shaken]
  rfl

/-- Refused bytes make `ovnc_client_connect` fail. -/
theorem clientConnect_fails (created : memory.client.state = .created)
    {input replies : List UInt8} {reason : Error} (refuses : Refuses error
      memory.client.pixelFormat memory.client.shared input replies reason) :
    Fails reason replies []
      ((clientConnect .bits64).run (host.ending error) memory { unread := input }) := by
  obtain ⟨failed, left, clock, shaken⟩ := @handshake_fails host error (memory.dialled host)
    ⟨host.socket⟩ input [] [] 0 rfl replies reason refuses
  obtain ⟨final, abandoned⟩ := @run_abandonConnect host error failed reason
    ⟨left, [] ++ replies, [], clock⟩
  refine ⟨final, left, clock, ?_⟩
  rw [run_clientConnect_accepted host error .bits64 created, connectHandshake, bind_eq,
    run_sequence, run_attempt, shaken]
  exact abandoned

end Sessions

/-- Any stream that ends, to a fresh client on a server that takes its connection. If the
stream begins with a greeting for the client, `ovnc_client_connect` returns, with the replies
and the record that belong to this greeting, and `ovnc_client_run` reads the rest as the
longest sequence of accepted messages. If it is refused, the error is that of the refusal, the
replies are those to the messages before it, and the client is as it was. Every stream is one
or the other. -/
theorem session_reads (host : Host) {error : Error}
    (ends : error = .io ∨ error = .connectionClosed) {memory : Memory}
    (created : memory.client.state = .created) (detached : memory.client.transport = none)
    (counted : 0 ≤ memory.platformInitCount)
    (few : ∀ encodings, memory.client.encodings = some encodings → encodings.length ≤ 65535)
    (input : List UInt8) :
    (∀ version init rest, Accepts memory.client.pixelFormat input version init rest →
      SessionReads host error memory version init input rest) ∧
    (∀ replies reason,
      Refuses error memory.client.pixelFormat memory.client.shared input replies reason →
      SessionRefuses host error memory input replies reason) ∧
    ((∃ version init rest, Accepts memory.client.pixelFormat input version init rest) ∨
      ∃ replies reason,
        Refuses error memory.client.pixelFormat memory.client.shared input replies reason) := by
  refine ⟨fun version init rest accepts => ?_, fun replies reason refuses => ?_,
    greeting_judged error _ _ input⟩
  · obtain ⟨framebuffer, clock, connected, extent, format, coherent⟩ :=
      clientConnect_takes host error created few accepts
    refine ⟨framebuffer, clock, ⟨extent, format, coherent⟩, connected, fun bound enough => ?_⟩
    have joined : (memory.joined host version init framebuffer).client.state = .connected := rfl
    rw [clientRun, bind_eq, (requireConnected_passes _ joined _).1]
    exact @runLoop_reads host (memory.joined host version init framebuffer) ⟨host.socket⟩ error ends
      rfl joined coherent rest _ [] clock bound enough
  · obtain ⟨final, left, clock, failed⟩ := clientConnect_fails host error created refuses
    have executed := run_execution _ Allowed (host.ending_allowed ends) (clientConnect .bits64)
      memory { unread := input }
    rw [failed] at executed
    have ended := (wp_iff _ _ _).mp (clientConnect_ends .bits64 created detached counted) _ _ _
      executed
    exact ⟨final, left, clock, failed, ended.failed reason rfl⟩

/-- A session with the server of version 3.8 that has a long name and rings the bell. -/
theorem session_reads_bell : SessionReads plainHost .connectionClosed ⟨plainClient {}, 0, 0⟩
    bellOffer.version bellOffer.init (bellOffer.greeting ++ bellOffer.following)
    bellOffer.following :=
  (session_reads plainHost (.inr rfl) rfl rfl (Int.le_refl 0) (fun _ chosen => by cases chosen)
    (bellOffer.greeting ++ bellOffer.following)).1 _ _ _
      ⟨⟨_, bellOffer.greets, rfl⟩, bellOffer.supported⟩

end OpenVnc
