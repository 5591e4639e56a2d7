import OpenVnc.Properties.Acceptance
import OpenVnc.Properties.RunLoop

/-!
# The message loop on any stream

What `ovnc_client_run` makes of the bytes of a server, whatever they are. The stream is read
as the longest sequence of accepted messages at its front; the loop reports them and the
leading rectangles of an update it could not finish, and then stops. An iteration takes one
message off the stream, so that all of the loop follows by induction on its bound.
-/

namespace OpenVnc

open Interaction Interaction.Program

/-- How a stream is read: the messages at its front, as many as there are, and the
rectangles reported of what is left. -/
structure Reading (bpp : Nat) (size : Extent) (input : List UInt8) (messages : List ServerMessage)
    (updates : List RectUpdate) (rest : List UInt8) : Prop where
  split : ∃ encodings, List.Forall₂ ServerMessage.Encodes messages encodings ∧
    input = encodings.flatten ++ rest
  accepted : RectUpdate.AllAccepted bpp size (messages.flatMap ServerMessage.rects)
  longest : ∀ (message : ServerMessage) (bytes more : List UInt8), message.Encodes bytes →
    rest = bytes ++ more → ¬ RectUpdate.AllAccepted bpp
      (RectUpdate.resizeAll size (messages.flatMap ServerMessage.rects)) message.rects
  begun : Begun bpp (RectUpdate.resizeAll size (messages.flatMap ServerMessage.rects)) rest updates

/-- A message in front of a stream. -/
theorem Reading.cons {bpp : Nat} {size : Extent} {message : ServerMessage}
    {messages : List ServerMessage} {updates : List RectUpdate} {bytes input rest : List UInt8}
    (encodes : message.Encodes bytes) (accepted : RectUpdate.AllAccepted bpp size message.rects)
    (others : Reading bpp (RectUpdate.resizeAll size message.rects) input messages updates rest) :
    Reading bpp size (bytes ++ input) (message :: messages) updates rest := by
  have sizes : RectUpdate.resizeAll size ((message :: messages).flatMap ServerMessage.rects) =
      RectUpdate.resizeAll (RectUpdate.resizeAll size message.rects)
        (messages.flatMap ServerMessage.rects) := by
    rw [List.flatMap_cons, RectUpdate.resizeAll_append]
  obtain ⟨encodings, encoded, rfl⟩ := others.split
  refine ⟨⟨bytes :: encodings, .cons encodes encoded, ?_⟩, ?_, ?_, ?_⟩
  · rw [List.flatten_cons, List.append_assoc]
  · rw [List.flatMap_cons, RectUpdate.allAccepted_append]
    exact ⟨accepted, others.accepted⟩
  · rw [sizes]
    exact others.longest
  · rw [sizes]
    exact others.begun

/-- How the loop can come to an end on a stream that ends with the given error. The callbacks
are those of the messages, then those of the rectangles of an unfinished update. -/
inductive LoopEnds (error : Error) (callbacks : ClientCallbacks) (called : List Callback)
    (rest : List UInt8) : Outcome Error Fault Unit × Memory × Feed → Prop where
  | disconnected {reason : Error} {final : Memory} {later : Feed}
      (cause : reason = error ∨ reason = .protocol ∨ reason = .encodingUnsupported)
      (state : final.client.state = .disconnected) (transport : final.client.transport = none)
      (reported : later.fired =
        called ++ [Callback.disconnected reason].filter callbacks.has) :
      LoopEnds error callbacks called rest (.failed reason, final, later)
  | overrun {final : Memory} {later : Feed} (overlong : Overlong rest)
      (reported : later.fired = called) :
      LoopEnds error callbacks called rest (.faulted (.outOfBounds .serverText), final, later)

section Loop

variable (host : Host) {memory : Memory} {transport : Transport} {error : Error}

/-- A message that could not be decoded ends the loop: the error is reported, and the client
is disconnected. -/
theorem iteration_ends (ends : error = .io ∨ error = .connectionClosed)
    (attached : memory.client.transport = some transport)
    (connected : memory.client.state = .connected) {feed later : Feed} {reason : Error}
    {failed : Memory} (ran : (recvServerMessage .bits64).run (host.ending error) memory feed =
      (.failed reason, failed, later))
    (cause : reason = error ∨ reason = .protocol ∨ reason = .encodingUnsupported)
    (following : Routine Unit) (rest : List UInt8) :
    LoopEnds error memory.client.callbacks later.fired rest
      ((iteration .bits64 following).run (host.ending error) memory feed) := by
  -- The client is as it was until the error is handled.
  have settled : failed.settled = memory.settled := by
    have executed := run_execution _ Allowed (host.ending_allowed ends) (recvServerMessage .bits64)
      memory feed
    rw [ran] at executed
    have followed := (wp_iff _ _ _).mp
      (recvServerMessage_followed .bits64 attached connected) _ _ _ executed
    rcases followed.ended with ⟨-, same⟩ | ⟨-, waiting | faulted | ⟨returned, -⟩⟩
    · exact same
    · cases waiting
    · cases faulted
    · cases returned
  have still : failed.client.state = .connected :=
    (congrArg (fun seen => seen.1.state) settled).trans connected
  have callbacks : failed.client.callbacks = memory.client.callbacks :=
    congrArg (fun seen => seen.1.callbacks) settled
  have torn : (tearDown reason : Routine Unit).run (host.ending error) failed later =
      (.failed reason, failed.hungUp,
        later.notified failed.client.callbacks (.disconnected reason)) := by
    rw [run_ending_ended host _ (by rw [run_tearDown]; simp), run_tearDown]
  rw [iteration, bind_eq, run_sequence, run_attempt, ran]
  simp only [proceed]
  rw [torn]
  refine .disconnected cause ?_ ?_ ?_
  · simp [Memory.hungUp, still]
  · simp [Memory.hungUp, still]
  · rw [Feed.notified, callbacks]

/-- The loop on any stream, by induction on its bound: an iteration takes an accepted message
off the stream and leaves the rest to the others, or it is the last one. -/
theorem runLoop_reads (ends : error = .io ∨ error = .connectionClosed)
    (attached : memory.client.transport = some transport)
    (connected : memory.client.state = .connected)
    (coherent : memory.client.framebuffer.Coherent) (input sent : List UInt8)
    (fired : List Callback) (clock bound : Nat) (enough : input.length < bound) :
    ∃ messages updates rest,
      Reading memory.client.framebuffer.format.pixelBytes memory.client.framebuffer.extent input
        messages updates rest ∧
      LoopEnds error memory.client.callbacks (fired ++
          (messages.flatMap ServerMessage.callbacks ++ updates.map RectUpdate.callback).filter
            memory.client.callbacks.has) rest
        ((runLoop .bits64 bound).run (host.ending error) memory ⟨input, sent, fired, clock⟩) := by
  induction bound generalizing memory input fired clock with
  | zero => omega
  | succ bound inductionHypothesis =>
    rw [(runLoop_connected _ _ .bits64 bound connected).1]
    have parsed := recvServerMessage_parses host sent fired clock attached coherent input
    have unread {updates : List RectUpdate} {outcome : Outcome Error Fault Unit} {final : Memory}
        {later : Feed} (ran : (recvServerMessage .bits64).run host.feed memory
          ⟨input, sent, fired, clock⟩ = (outcome, final, later)) (other : outcome ≠ .returned ())
        (begun : Begun memory.client.framebuffer.format.pixelBytes
          memory.client.framebuffer.extent input updates) :
        Reading memory.client.framebuffer.format.pixelBytes memory.client.framebuffer.extent input
          [] updates input :=
      ⟨⟨[], .nil, rfl⟩, trivial, recvServerMessage_unreturned host sent fired clock attached
        coherent (by rw [ran]; exact other), begun⟩
    rcases parsed with ⟨message, bytes, rest, encodes, rfl, accepted⟩ |
      ⟨updates, begun, halted⟩ | ⟨overlong, left, faulted⟩
    · -- A message: the loop goes on behind it.
      obtain ⟨after, pending, later, ran, format, size, kept⟩ :=
        recvServerMessage_takes host attached coherent encodes accepted rest sent fired clock
      have ended := run_ending_ended host error (by rw [ran]; simp)
      have some := List.length_pos_iff.mpr encodes.ne_nil
      rw [List.length_append] at enough
      obtain ⟨messages, updates, last, reading, loopEnds⟩ :=
        @inductionHypothesis (memory.showing after pending) attached connected kept rest
          (fired ++ message.callbacks.filter memory.client.callbacks.has) later (by omega)
      rw [show (memory.showing after pending).client.framebuffer = after from rfl, format,
        size] at reading
      refine ⟨message :: messages, updates, last, reading.cons encodes accepted, ?_⟩
      rw [iteration, bind_eq, run_sequence, run_attempt, ended, ran]
      rw [show (memory.showing after pending).client.callbacks = memory.client.callbacks from rfl,
        List.append_assoc, ← List.filter_append, ← List.append_assoc,
        ← List.flatMap_cons] at loopEnds
      exact loopEnds
    · cases ran : (recvServerMessage .bits64).run host.feed memory ⟨input, sent, fired, clock⟩ with
      | mk outcome final =>
        obtain ⟨final, later⟩ := final
        rw [ran] at halted
        have reading := unread ran (halted.unreturned ()) begun
        refine ⟨[], updates, input, reading, ?_⟩
        rw [List.flatMap_nil, List.nil_append, ← halted.silent]
        rcases halted.outcome with waits | fails
        · -- What it waits for does not come.
          obtain rfl : outcome = .waiting := waits
          obtain ⟨failed, ended⟩ :=
            run_ending_waiting host error (recvServerMessage_yields .bits64) ran
          exact iteration_ends host ends attached connected ended (.inl rfl) _ input
        · obtain ⟨reason, rfl, cause⟩ : ∃ reason, outcome = .failed reason ∧
              (reason = .protocol ∨ reason = .encodingUnsupported) := by
            rcases fails with protocol | unsupported
            · exact ⟨_, protocol, .inl rfl⟩
            · exact ⟨_, unsupported, .inr rfl⟩
          have ended := run_ending_ended host error (by rw [ran]; simp)
          exact iteration_ends host ends attached connected (ended.trans ran) (.inr cause) _ input
    · -- The size of the storage wraps: the client is not even disconnected.
      obtain ⟨padding, text, size, rfl⟩ := overlong
      refine ⟨[], [], _, unread faulted (by simp) (.other (fun _ _ _ _ => by simp)), ?_⟩
      have ended := run_ending_ended host error (by rw [faulted]; simp)
      rw [iteration, bind_eq, run_sequence, run_attempt, ended, faulted]
      exact .overrun ⟨padding, text, size, rfl⟩ (List.append_nil fired).symm

end Loop

/-- `ovnc_client_run` on any stream that ends, from a connected client with a coherent
framebuffer. The stream is read as the longest sequence of accepted messages at its front:
their callbacks run, in order and with their arguments. What is left begins with no accepted
message. Of an update in it the leading rectangles that are accepted are reported, and then
the end of the connection, once; or it is the text whose storage cannot be addressed. -/
theorem clientRun_reads (host : Host) {error : Error}
    (ends : error = .io ∨ error = .connectionClosed) {memory : Memory} {transport : Transport}
    (attached : memory.client.transport = some transport)
    (connected : memory.client.state = .connected)
    (coherent : memory.client.framebuffer.Coherent) (input sent : List UInt8)
    (fired : List Callback) (clock bound : Nat) (enough : input.length < bound) :
    ∃ messages updates rest,
      Reading memory.client.framebuffer.format.pixelBytes memory.client.framebuffer.extent input
        messages updates rest ∧
      LoopEnds error memory.client.callbacks (fired ++
          (messages.flatMap ServerMessage.callbacks ++ updates.map RectUpdate.callback).filter
            memory.client.callbacks.has) rest
        ((clientRun .bits64 bound).run (host.ending error) memory ⟨input, sent, fired, clock⟩) := by
  obtain ⟨messages, updates, rest, reading, loopEnds⟩ :=
    runLoop_reads host ends attached connected coherent input sent fired clock bound enough
  refine ⟨messages, updates, rest, reading, ?_⟩
  rw [clientRun, bind_eq, (requireConnected_passes _ connected _).1]
  exact loopEnds

/-- A bell, and an update whose second rectangle has an encoding nobody asked for. -/
def strangeStream : List UInt8 :=
  [2] ++ [0, 9, 0, 2] ++ (RectUpdate.raw ⟨0, 0, 1, 1⟩ [1, 2, 3, 4]).encode ++
    [0, 0, 0, 0, 0, 0, 0, 0, 0, 0, 0, 7]

/-- The loop reads the bell and the first rectangle of the example, reports both and ends at the
second rectangle's encoding. -/
theorem clientRun_reads_strange : ∃ messages updates rest,
    Reading pictureMemory.client.framebuffer.format.pixelBytes
        pictureMemory.client.framebuffer.extent strangeStream messages updates rest ∧
      LoopEnds .connectionClosed pictureMemory.client.callbacks ([] ++
          (messages.flatMap ServerMessage.callbacks ++ updates.map RectUpdate.callback).filter
            pictureMemory.client.callbacks.has) rest
        ((clientRun .bits64 64).run (plainHost.ending .connectionClosed) pictureMemory
          ⟨strangeStream, [], [], 0⟩) :=
  @clientRun_reads plainHost _ (.inr rfl) pictureMemory _ rfl rfl ⟨by decide, by decide, by decide⟩
    strangeStream [] [] 0 64 (by decide)

end OpenVnc
