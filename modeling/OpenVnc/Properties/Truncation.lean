import OpenVnc.Calls
import OpenVnc.Endings
import OpenVnc.Properties.MessageDecoding

/-!
# Messages that are cut short

When the stream ends inside a message, the message is not taken for a complete one. The
decoder waits for the rest of the message, because the whole of it would leave what
follows unread, and a stream that ends turns the wait into an error. Every routine below
the rectangle loop calls its callback after its last receive, so that what it reports has
arrived completely; the loop has reported the rectangles before the cut.
-/

namespace OpenVnc

open Interaction Interaction.Program

/-! ## Waiting in silence -/

section Silence

variable {α β : Type} (host : Host)

/-- Only a callback is logged. -/
theorem Host.feed_logs (request : Request) (feed : Feed) :
    request.isCallback = true ∧ (host.feed request feed).1 ≠ none ∨
      (host.feed request feed).2.fired = feed.fired := by
  cases request with
  | recv len =>
    simp only [Host.feed]
    split
    · exact .inr rfl
    · exact .inr rfl
  | callback call => exact .inl ⟨rfl, Option.some_ne_none _⟩
  | _ => exact .inr rfl

/-- A run without a callback leaves the log as it is. -/
theorem run_unreported (routine : Routine α) (memory : Memory) (feed : Feed)
    (silent : ∀ event ∈ routine.trace host.feed memory feed, event.request.isCallback = false) :
    (routine.run host.feed memory feed).2.2.fired = feed.fired := by
  induction routine generalizing memory feed with
  | done | failing | faulting | stalled => rfl
  | loading next inductionHypothesis => exact inductionHypothesis memory memory feed silent
  | storing written next inductionHypothesis => exact inductionHypothesis written feed silent
  | asking request next inductionHypothesis =>
    have logs := host.feed_logs request feed
    simp only [run, trace] at silent ⊢
    revert silent logs
    rcases host.feed request feed with ⟨_ | answer, later⟩
    · intro logs _
      exact logs.resolve_left (fun called => called.2 rfl)
    · intro logs silent
      have unlogged := logs.resolve_left (fun called =>
        absurd ((silent _ List.mem_cons_self).symm.trans called.1) (by decide))
      have others := inductionHypothesis answer memory later
        (fun event member => silent event (List.mem_cons_of_mem _ member))
      exact others.trans unlogged

/-- A routine that decodes without a callback logs nothing. -/
theorem Decodes.unreported {routine : Routine α} (decodes : Decodes Allowed routine)
    (memory : Memory) (feed : Feed) :
    (routine.run host.feed memory feed).2.2.fired = feed.fired := by
  have executed := run_execution host.feed Allowed (fun request feed answer later answered =>
    (host.feed_provisioned request feed answer later answered).1) routine memory feed
  obtain ⟨-, within, -⟩ := (wp_iff _ _ _).mp (decodes memory) _ _ _ executed
  apply run_unreported
  rintro ⟨seen, request, answer⟩ member
  have decoding := (within _ member).2
  cases request with
  | callback call => cases decoding
  | _ => rfl

/-- A routine that has called no callback as long as it waits. -/
def Withholds (routine : Routine α) : Prop :=
  ∀ (host : Host) (memory : Memory) (feed : Feed),
    (routine.run host.feed memory feed).1 = .waiting →
      (routine.run host.feed memory feed).2.2.fired = feed.fired

namespace Withholds

/-- A routine that only decodes calls nothing back, whether it waits or not. -/
theorem silent {routine : Routine α} (decodes : Decodes Allowed routine) : Withholds routine :=
  fun host memory feed _ => decodes.unreported host memory feed

/-- Before the callback, a routine only decodes. -/
theorem after {first : Routine α} {following : α → Routine β} (decodes : Decodes Allowed first)
    (withholds : ∀ value, Withholds (following value)) : Withholds (first >>= following) := by
  intro host memory feed
  have unlogged := decodes.unreported host memory feed
  rw [bind_eq, run_sequence]
  revert unlogged
  rcases first.run host.feed memory feed with ⟨outcome, middle, later⟩
  cases outcome with
  | returned value =>
    intro unlogged waits
    exact (withholds value host middle later waits).trans unlogged
  | failed | faulted | waiting => exact fun unlogged _ => unlogged

/-- What follows a look at the memory may depend on it. -/
theorem load {following : Memory → Routine α}
    (withholds : ∀ memory, Withholds (following memory)) :
    Withholds (Program.load >>= following) :=
  fun host memory feed => withholds memory host memory feed

/-- A choice of two routines that withhold, whatever decides it. -/
theorem ite {condition : Prop} [Decidable condition] {yes no : Routine α}
    (left : Withholds yes) (right : Withholds no) :
    Withholds (if condition then yes else no) := by
  split
  · exact left
  · exact right

/-- The host answers every callback. -/
theorem fire (call : Callback) : Withholds (OpenVnc.fire call) := by
  intro host memory feed waits
  rw [run_fire] at waits
  cases waits

end Withholds

end Silence

/-! ## The decoders and handlers -/

/-- Raw: the callback comes after the last row. -/
theorem decodeRaw_withholds (word : WordSize) (rect : Rect) : Withholds (decodeRaw word rect) :=
  Withholds.load (fun _ =>
    Withholds.after (decodeRawRows_decodes _ _ _ _ _ _ _) (fun _ => .fire _))

/-- DesktopSize: the callback comes last, and there is nothing to wait for after the header. -/
theorem decodeDesktopSize_withholds (word : WordSize) (rect : Rect) :
    Withholds (decodeDesktopSize word rect) := by
  have recorded (change : Framebuffer → Framebuffer) :
      Decodes Allowed (modifyFramebuffer change) := Keeps.update (fun _ => rfl)
  apply Withholds.load
  intro memory
  apply Withholds.ite
  · apply Withholds.after (recorded _)
    exact fun _ => Withholds.after callAllocFramebuffer_decodes (fun _ => .fire _)
  · apply Withholds.after (callocPixels_decodes _)
    rintro (_ | block)
    · exact .silent (Keeps.fail _)
    · apply Withholds.after (freePixels_decodes _)
      exact fun _ => Withholds.after (recorded _) (fun _ => .fire _)

/-- Cursor: the callback comes after the pixels and the mask have arrived. -/
theorem decodeCursor_withholds (word : WordSize) (rect : Rect) :
    Withholds (decodeCursor word rect) := by
  apply Withholds.load
  intro memory
  apply Withholds.ite (.fire _)
  apply Withholds.after (malloc_decodes _)
  intro allocated
  apply Withholds.after (Keeps.failIf _ _)
  exact fun _ => Withholds.after (transportRecv_decodes _) (fun _ => .fire _)

/-- A rectangle: its header is decoded first, and each payload withholds. -/
theorem handleRect_withholds (word : WordSize) : Withholds (handleRect word) := by
  apply Withholds.after (transportRecv_decodes 12)
  intro rectHeader
  apply Withholds.ite (decodeRaw_withholds word _)
  apply Withholds.ite (decodeDesktopSize_withholds word _)
  exact Withholds.ite (decodeCursor_withholds word _) (.silent (Keeps.fail _))

/-- SetColorMapEntries: every colour is decoded before the callback. -/
theorem handleColorMapEntries_withholds : Withholds handleColorMapEntries := by
  apply Withholds.after (transportRecv_decodes 5)
  intro header
  apply Withholds.after (malloc_decodes _)
  intro allocated
  apply Withholds.after (Keeps.failIf _ _)
  intro obtained
  apply Withholds.after (transportRecv_decodes _)
  intro data
  apply Withholds.load
  intro memory
  apply Withholds.ite
  · apply Withholds.after (malloc_decodes _)
    intro red
    apply Withholds.after (malloc_decodes _)
    intro green
    apply Withholds.after (malloc_decodes _)
    exact fun blue => Withholds.after (Keeps.failIf _ _) (fun _ => .fire _)
  · exact .silent (Keeps.done ())

/-- ServerCutText: the text has arrived before the callback. -/
theorem handleServerCutText_withholds : Withholds handleServerCutText := by
  have inside (condition : Prop) [Decidable condition] :
      Decodes Allowed (faultIf condition (.outOfBounds .serverText)) :=
    Keeps.faultIf condition (fun _ => nofun)
  apply Withholds.after (transportRecv_decodes 7)
  intro header
  apply Withholds.ite
  · apply Withholds.after (malloc_decodes _)
    intro allocated
    apply Withholds.after (Keeps.failIf _ _)
    intro obtained
    apply Withholds.after (inside _)
    intro fits
    apply Withholds.after (transportRecv_decodes _)
    exact fun text => Withholds.after (inside _) (fun _ => .fire _)
  · exact .fire _

/-! ## Messages -/

/-- The leading rectangles that lie completely in so many bytes. -/
def RectUpdate.arrived : Nat → List RectUpdate → List RectUpdate
  | _, [] => []
  | received, update :: updates =>
      if update.encode.length ≤ received then
        update :: arrived (received - update.encode.length) updates
      else []

/-- The leading rectangles of a message that lie completely in so many of its bytes. -/
def ServerMessage.arrived (message : ServerMessage) (received : Nat) : List RectUpdate :=
  RectUpdate.arrived (received - 4) message.rects

section Cutting

variable (host : Host) {memory : Memory} {transport : Transport} (sent : List UInt8)
  (fired : List Callback) (clock : Nat)

/-- A receive waits as long as bytes are missing. -/
theorem run_transportRecv_short (attached : memory.client.transport = some transport)
    {received : List UInt8} {len : Nat} (short : received.length < len) :
    (transportRecv len).run host.feed memory ⟨received, sent, fired, clock⟩ =
      (.waiting, memory, ⟨received, sent, fired, clock⟩) := by
  have unanswered : host.feed (.recv len) ⟨received, sent, fired, clock⟩ =
      (none, ⟨received, sent, fired, clock⟩) := if_neg (by simpa using short)
  rw [transportRecv, bind_eq, run_sequence_returned _ (run_derefTransport attached _)]
  change (asking (Request.recv len) _).run host.feed memory _ = _
  simp only [run, unanswered]

/-- A part that waits keeps the whole waiting. -/
theorem run_sequence_waiting {α β : Type} {first : Routine α} {following : α → Routine β}
    {feed later : Feed} {middle : Memory}
    (waits : first.run host.feed memory feed = (.waiting, middle, later)) :
    (sequence first following).run host.feed memory feed = (.waiting, middle, later) := by
  rw [run_sequence, waits]
  rfl

/-- The rectangle loop on rectangles of which the last bytes are missing: those that have
arrived are reported, and the loop waits. -/
theorem run_handleRects_cut (attached : memory.client.transport = some transport)
    (coherent : memory.client.framebuffer.Coherent) (updates : List RectUpdate)
    (wellFormed : RectUpdate.AllWellFormed memory.client.framebuffer.format.pixelBytes
      memory.client.framebuffer.extent updates)
    {received : List UInt8} (front : received <+: updates.flatMap RectUpdate.encode)
    (cut : received ≠ updates.flatMap RectUpdate.encode) :
    ∃ middle later,
      (handleRects .bits64 updates.length).run host.feed memory ⟨received, sent, fired, clock⟩ =
        (.waiting, middle, later) ∧
      later.fired = fired ++ ((RectUpdate.arrived received.length updates).map
        RectUpdate.callback).filter memory.client.callbacks.has := by
  induction updates generalizing memory received fired clock with
  | nil => exact absurd (List.prefix_nil.mp front) cut
  | cons update updates inductionHypothesis =>
    obtain ⟨first, others⟩ := wellFormed
    let counting : Memory := { memory with pendingRects := updates.length }
    have decodes (rest : List UInt8) :=
      @run_handleRect host counting transport rest sent fired clock attached coherent update first
    rw [List.flatMap_cons] at front cut
    simp only [List.length_cons, handleRects, bind_eq, RectUpdate.arrived]
    rw [run_update_then]
    by_cases whole : update.encode.length ≤ received.length
    · -- The first rectangle is there: it is reported, and the loop goes on.
      obtain ⟨rest, rfl⟩ : update.encode <+: received :=
        List.prefix_of_prefix_length_le (List.prefix_append _ _) front whole
      rw [List.prefix_append_right_inj] at front
      obtain ⟨between, middle, decoded, shown, kept⟩ := decodes rest
      obtain ⟨format, size⟩ := shown.extent
      obtain ⟨final, later, waits, reported⟩ :=
        @inductionHypothesis (counting.withFramebuffer between)
          (fired ++ [update.callback].filter memory.client.callbacks.has) middle attached kept
          (by
            rw [show (counting.withFramebuffer between).client.framebuffer = between from rfl,
              format, size]
            exact others)
          rest front (fun same => cut (congrArg _ same))
      refine ⟨final, later, ?_, ?_⟩
      · rw [run_sequence_returned _ decoded]
        exact waits
      · rw [if_pos whole, reported, List.append_assoc, List.length_append,
          Nat.add_sub_cancel_left, List.map_cons,
          show (counting.withFramebuffer between).client.callbacks = memory.client.callbacks from
            rfl, ← List.filter_append]
        rfl
    · -- The first rectangle is cut: nothing of it is reported.
      have partly : received <+: update.encode :=
        List.prefix_of_prefix_length_le front (List.prefix_append _ _) (by omega)
      obtain ⟨between, middle, decoded, -, -⟩ := decodes []
      obtain ⟨final, later, waits⟩ := run_cut host ⟨received, sent, fired, clock⟩ decoded rfl
        partly (fun same => whole (Nat.le_of_eq (congrArg List.length same.symm)))
      refine ⟨final, later, run_sequence_waiting host waits, ?_⟩
      have silent := handleRect_withholds .bits64 host counting ⟨received, sent, fired, clock⟩
      rw [waits] at silent
      rw [if_neg whole, silent rfl]
      exact (List.append_nil fired).symm

/-- An update of which the last bytes are missing, from its second byte on. -/
theorem run_handleFbUpdate_cut (attached : memory.client.transport = some transport)
    (coherent : memory.client.framebuffer.Coherent) (rects : Counted (2 ^ 16) RectUpdate)
    (wellFormed : RectUpdate.AllWellFormed memory.client.framebuffer.format.pixelBytes
      memory.client.framebuffer.extent rects.val)
    {received : List UInt8}
    (front : received <+: [0] ++ writeU16 (UInt16.ofNat rects.val.length) ++
      rects.val.flatMap RectUpdate.encode)
    (cut : received ≠ [0] ++ writeU16 (UInt16.ofNat rects.val.length) ++
      rects.val.flatMap RectUpdate.encode) :
    ∃ middle later,
      (handleFbUpdate .bits64).run host.feed memory ⟨received, sent, fired, clock⟩ =
        (.waiting, middle, later) ∧
      later.fired = fired ++ ((RectUpdate.arrived (received.length - 3) rects.val).map
        RectUpdate.callback).filter memory.client.callbacks.has := by
  rw [handleFbUpdate, bind_eq]
  by_cases counted : 3 ≤ received.length
  · obtain ⟨rest, rfl⟩ : [0] ++ writeU16 (UInt16.ofNat rects.val.length) <+: received :=
      List.prefix_of_prefix_length_le (List.prefix_append _ _) front counted
    rw [List.prefix_append_right_inj] at front
    have header := run_transportRecv host attached
      (show ([0] ++ writeU16 (UInt16.ofNat rects.val.length)).length = 3 from rfl) rest sent fired
      clock
    have count : readU16 (([0] ++ writeU16 (UInt16.ofNat rects.val.length)).drop 1) =
        UInt16.ofNat rects.val.length := readU16_writeU16 _ []
    obtain ⟨middle, later, waits, reported⟩ := run_handleRects_cut host sent fired clock attached
      coherent rects.val wellFormed front (fun same => cut (congrArg _ same))
    rw [run_sequence_returned _ header, count, UInt16.toNat_ofNat_of_lt' rects.property, bind_eq]
    refine ⟨middle, later, run_sequence_waiting host waits, ?_⟩
    rw [reported, List.length_append]
    simp
  · refine ⟨memory, _, run_sequence_waiting host
      (run_transportRecv_short host sent fired clock attached (by omega)), ?_⟩
    have nothing : RectUpdate.arrived (received.length - 3) rects.val = [] := by
      rw [show received.length - 3 = 0 by omega]
      cases rects.val with
      | nil => rfl
      | cons update updates => simp [RectUpdate.arrived, RectUpdate.encode, RectUpdate.header]
    rw [nothing]
    exact (List.append_nil fired).symm

/-- `ovnc__recv_server_message` on a message of which the last bytes are missing: the
rectangles that have arrived are reported, and the decoder waits. -/
theorem run_recvServerMessage_cut (attached : memory.client.transport = some transport)
    (coherent : memory.client.framebuffer.Coherent) (message : ServerMessage)
    (wellFormed : RectUpdate.AllWellFormed memory.client.framebuffer.format.pixelBytes
      memory.client.framebuffer.extent message.rects)
    {received : List UInt8} (front : received <+: message.encode)
    (cut : received ≠ message.encode) :
    ∃ middle later,
      (recvServerMessage .bits64).run host.feed memory ⟨received, sent, fired, clock⟩ =
        (.waiting, middle, later) ∧
      later.fired = fired ++ ((message.arrived received.length).map
        RectUpdate.callback).filter memory.client.callbacks.has := by
  have typed (msgType : UInt8) (body : List UInt8) :
      (recvServerMessage .bits64).run host.feed memory
          ⟨[msgType] ++ body, sent, fired, clock⟩ =
        (if msgType = 0 then handleFbUpdate .bits64
          else if msgType = 1 then handleColorMapEntries
          else if msgType = 2 then handleBell
          else if msgType = 3 then handleServerCutText
          else fail .protocol).run host.feed memory ⟨body, sent, fired, clock⟩ := by
    rw [recvServerMessage, bind_eq,
      run_sequence_returned _ (run_transportRecv host attached (show [msgType].length = 1 from rfl)
        body sent fired clock)]
    rfl
  -- A handler that waits has reported nothing.
  have unreported (msgType : UInt8) {routine : Routine Unit} (withholds : Withholds routine)
      (body : List UInt8) (nothing : message.rects = [])
      (handles : (recvServerMessage .bits64).run host.feed memory
        ⟨msgType :: body, sent, fired, clock⟩ = routine.run host.feed memory
        ⟨body, sent, fired, clock⟩)
      (front : msgType :: body <+: message.encode) (cut : msgType :: body ≠ message.encode) :
      ∃ middle later,
        (recvServerMessage .bits64).run host.feed memory ⟨msgType :: body, sent, fired, clock⟩ =
          (.waiting, middle, later) ∧
        later.fired = fired ++ ((message.arrived (msgType :: body).length).map
          RectUpdate.callback).filter memory.client.callbacks.has := by
    obtain ⟨after, pending, last, decoded, -, -⟩ :=
      recvServerMessage_decoded host attached coherent message wellFormed [] sent fired clock
    obtain ⟨middle, later, waits⟩ :=
      run_cut host ⟨msgType :: body, sent, fired, clock⟩ decoded rfl front cut
    have silent := withholds host memory ⟨body, sent, fired, clock⟩
    rw [← handles, waits] at silent
    refine ⟨middle, later, waits, (silent rfl).trans ?_⟩
    rw [ServerMessage.arrived, nothing]
    exact (List.append_nil fired).symm
  cases received with
  | nil =>
    refine ⟨memory, _, run_sequence_waiting host
      (run_transportRecv_short host sent fired clock attached (Nat.zero_lt_one)), ?_⟩
    have nothing : message.arrived 0 = [] := by
      rw [ServerMessage.arrived]
      cases message.rects with
      | nil => rfl
      | cons update updates =>
        simp [RectUpdate.arrived, RectUpdate.encode, RectUpdate.header]
    rw [List.length_nil, nothing]
    exact (List.append_nil fired).symm
  | cons msgType body =>
    cases message with
    | framebufferUpdate rects =>
      obtain ⟨rfl, others⟩ := List.cons_prefix_cons.mp front
      obtain ⟨middle, later, waits, reported⟩ := run_handleFbUpdate_cut host sent fired clock
        attached coherent rects wellFormed others (fun same => cut (congrArg _ same))
      refine ⟨middle, later, (typed 0 body).trans waits, ?_⟩
      rw [reported, ServerMessage.arrived, List.length_cons]
      rfl
    | setColorMapEntries firstColor colors =>
      obtain ⟨rfl, -⟩ := List.cons_prefix_cons.mp front
      exact unreported 1 handleColorMapEntries_withholds body rfl (typed 1 body) front cut
    | bell =>
      obtain ⟨rfl, -⟩ := List.cons_prefix_cons.mp front
      exact unreported 2 (.fire .bell) body rfl (typed 2 body) front cut
    | serverCutText text =>
      obtain ⟨rfl, -⟩ := List.cons_prefix_cons.mp front
      exact unreported 3 handleServerCutText_withholds body rfl (typed 3 body) front cut

/-! ## Tearing down -/

/-- `ovnc_client_disconnect` against the host. -/
theorem run_clientDisconnect (feed : Feed) :
    clientDisconnect.run host.feed memory feed = (.returned (), memory.hungUp, feed) := by
  have detached : transportDestroy.run host.feed memory feed =
      (.returned (), { memory with client := { memory.client with transport := none } }, feed) := by
    rw [transportDestroy, bind_eq, run_load_then]
    cases attached : memory.client.transport with
    | none =>
      have same : { memory with client := { memory.client with transport := none } } = memory := by
        rw [← attached]
      rw [same]
      rfl
    | some transport =>
      by_cases opened : transport.sock ≠ invalidSocket
      · simp only [onlyIf, if_pos opened]
        rfl
      · simp only [onlyIf, if_neg opened]
        rfl
  rw [clientDisconnect, bind_eq, run_load_then]
  by_cases connected : memory.client.state = .connected
  · simp only [onlyIf, connected, if_true, bind_eq]
    rw [run_sequence_returned _ detached]
    change (Outcome.returned (), _, feed) = _
    simp only [Memory.hungUp, connected, if_true]
    split <;> rfl
  · simp [onlyIf, connected, Memory.hungUp]

/-- The error is reported, the client is hung up, and the error is returned. -/
theorem run_tearDown (error : Error) (feed : Feed) :
    (tearDown error : Routine Unit).run host.feed memory feed =
      (.failed error, memory.hungUp,
        feed.notified memory.client.callbacks (.disconnected error)) := by
  rw [tearDown, bind_eq, run_sequence_returned _ (run_fire host _ _), bind_eq,
    run_sequence_returned _ (run_clientDisconnect host _)]
  rfl

end Cutting

/-- A connected client with a coherent record is given a message that is cut short, at any
byte of it, the first one included. The call returns that the connection is closed and
leaves the client disconnected. The rectangles that have arrived completely were reported,
the end of the connection is reported once, and nothing else is. -/
theorem clientProcessMessage_truncated (host : Host) {memory : Memory} {transport : Transport}
    (attached : memory.client.transport = some transport)
    (connected : memory.client.state = .connected)
    (coherent : memory.client.framebuffer.Coherent) (message : ServerMessage)
    (wellFormed : RectUpdate.AllWellFormed memory.client.framebuffer.format.pixelBytes
      memory.client.framebuffer.extent message.rects)
    {received : List UInt8} (front : received <+: message.encode)
    (cut : received ≠ message.encode) (sent : List UInt8) (fired : List Callback) (clock : Nat) :
    ∃ final later,
      (clientProcessMessage .bits64).run (host.ending .connectionClosed) memory
          ⟨received, sent, fired, clock⟩ = (.failed .connectionClosed, final, later) ∧
      final.client.state = .disconnected ∧ final.client.transport = none ∧
      later.unread = [] ∧
      later.fired = fired ++ ((message.arrived received.length).map RectUpdate.callback ++
        [Callback.disconnected .connectionClosed]).filter memory.client.callbacks.has := by
  obtain ⟨middle, waiting, waits, reported⟩ := run_recvServerMessage_cut host sent fired clock
    attached coherent message wellFormed front cut
  obtain ⟨failed, ended⟩ := run_ending_waiting host .connectionClosed
    (recvServerMessage_yields .bits64) waits
  -- The client is as it was until the error is handled.
  have settled : failed.settled = memory.settled := by
    have executed := run_execution _ Allowed (host.ending_allowed (.inr rfl))
      (recvServerMessage .bits64) memory ⟨received, sent, fired, clock⟩
    rw [ended] at executed
    have followed := (wp_iff _ _ _).mp
      (recvServerMessage_followed .bits64 attached connected) _ _ _ executed
    rcases followed.ended with ⟨-, same⟩ | ⟨-, waiting | faulted | ⟨returned, -⟩⟩
    · exact same
    · cases waiting
    · cases faulted
    · cases returned
  have still : failed.client.state = .connected :=
    (congrArg (fun seen => seen.1.state) settled).trans connected
  have callbacks : failed.client.callbacks = memory.client.callbacks :=
    congrArg (fun seen => seen.1.callbacks) settled
  have torn : (tearDown Error.connectionClosed : Routine Unit).run
      (host.ending .connectionClosed) failed { waiting with unread := [] } =
      (.failed .connectionClosed, failed.hungUp, Feed.notified { waiting with unread := [] }
        failed.client.callbacks (.disconnected .connectionClosed)) := by
    rw [run_ending_ended host _ (by rw [run_tearDown]; exact nofun), run_tearDown]
  have admitted : requireConnected.run (host.ending .connectionClosed) memory
      ⟨received, sent, fired, clock⟩ = (.returned (), memory, ⟨received, sent, fired, clock⟩) := by
    simp [requireConnected, bind_eq, run_load_then, failIf, connected]
  refine ⟨failed.hungUp, Feed.notified { waiting with unread := [] } failed.client.callbacks
    (.disconnected .connectionClosed), ?_, ?_, ?_, rfl, ?_⟩
  · rw [clientProcessMessage, bind_eq, run_sequence_returned _ admitted, bind_eq, run_sequence,
      run_attempt, ended]
    exact torn
  · simp [Memory.hungUp, still]
  · simp [Memory.hungUp, still]
  · rw [Feed.notified, callbacks, List.filter_append, ← List.append_assoc, ← reported]

/-- An update of a pixel and of the size of the desktop. -/
def pictureUpdate : ServerMessage :=
  .framebufferUpdate ⟨[.raw ⟨0, 0, 1, 1⟩ [1, 2, 3, 4], .desktopSize ⟨0, 0, 2, 1⟩], by decide⟩

/-- The second rectangle is cut in its header: the first one is reported. -/
theorem clientProcessMessage_truncated_picture : ∃ final later,
    (clientProcessMessage .bits64).run (plainHost.ending .connectionClosed) pictureMemory
        ⟨pictureUpdate.encode.take 25, [], [], 0⟩ = (.failed .connectionClosed, final, later) ∧
      final.client.state = .disconnected ∧ final.client.transport = none ∧
      later.unread = [] ∧ later.fired = [.framebufferUpdate ⟨0, 0, 1, 1⟩] :=
  clientProcessMessage_truncated plainHost rfl rfl ⟨by decide, by decide, by decide⟩ pictureUpdate
    ⟨⟨by decide, by decide, by decide⟩, trivial, trivial⟩ (List.take_prefix 25 _) (by decide) [] []
    0

end OpenVnc
