import OpenVnc.Properties.MessageDecoding
import OpenVnc.Session

/-!
# The two sides agree on the pixel format

The client switches to a new format when it sends SetPixelFormat, the server when it
handles the message, and updates encoded in between are read with the wrong number of
bytes. The two agree in every run in which the number of bytes per pixel is changed only
while no pixels are on their way to the client, and the server sends no pixels while
such a change is on its way to the server.
-/

namespace OpenVnc

open Interaction Interaction.Program Codec

/-! ## The client's calls against a host -/

section Calls

variable (host : Host) {memory : Memory} {transport : Transport}

/-- On a connected client the check of the state passes, and what follows runs. -/
theorem run_requireConnected_then {following : Unit → Routine Unit}
    (connected : memory.client.state = .connected) (feed : Feed) :
    (requireConnected >>= following).run host.feed memory feed =
      (following ()).run host.feed memory feed := by
  have passed : requireConnected.run host.feed memory feed = (.returned (), memory, feed) := by
    rw [requireConnected, bind_eq, run_load_then]
    simp [failIf, connected]
  rw [bind_eq, run_sequence_returned _ passed]

/-- A request for an update is sent and changes nothing else. -/
theorem run_requestUpdate (attached : memory.client.transport = some transport)
    (connected : memory.client.state = .connected) (rect : Option Rect) (incremental : Int32)
    (feed : Feed) : ∃ flag x y width height,
      (perform .bits64 0 (.requestUpdate rect incremental)).run host.feed memory feed =
        (.returned (), memory, { feed with sent := feed.sent ++
          (ClientMessage.fbUpdateRequest flag x y width height).encode }) := by
  have sent := run_transportSend host attached
  exact ⟨_, _, _, _, _, (run_requireConnected_then host connected feed).trans (sent _ feed)⟩

/-- A format without a byte count is refused. -/
theorem run_setPixelFormat_refused (connected : memory.client.state = .connected)
    {format : PixelFormat} (unsupported : ¬ format.Supported) (feed : Feed) :
    (perform .bits64 0 (.setPixelFormat (some format))).run host.feed memory feed =
      (.failed .invalidArg, memory, feed) := by
  have negative : format.bytesPerPixel < 0 := by
    by_contra nonnegative
    exact unsupported ((format.bytesPerPixel_nonneg_iff).mp nonnegative)
  apply (run_requireConnected_then host connected feed).trans
  rw [bind_eq, run_failIf_then, if_pos negative]

/-- Adopting a supported format leaves a coherent record of the same size. -/
theorem run_adoptPixelFormat (coherent : memory.client.framebuffer.Coherent) {format : PixelFormat}
    (supported : format.Supported) (unread sent : List UInt8) (fired : List Callback)
    (clock : Nat) :
    ∃ after later,
      (adoptPixelFormat .bits64 format).run host.feed memory ⟨unread, sent, fired, clock⟩ =
        (.returned (), memory.withFramebuffer after, ⟨unread, sent, fired, later⟩) ∧
      after.format = format ∧ after.extent = memory.client.framebuffer.extent ∧ after.Coherent := by
  have newBytes : WordSize.bits64.ofInt format.bytesPerPixel = format.pixelBytes :=
    ofInt_bytesPerPixel supported
  have newSize := product_exact memory.client.framebuffer.width memory.client.framebuffer.height
    supported.pixelBytes_le
  simp only [adoptPixelFormat, bind_eq]
  rw [run_load_then, run_modifyFramebuffer_then, newBytes, newSize]
  by_cases same : format.bytesPerPixel = memory.client.framebuffer.format.bytesPerPixel
  · have bytes : format.pixelBytes = memory.client.framebuffer.format.pixelBytes :=
      congrArg Int.toNat same
    refine ⟨{ memory.client.framebuffer with format := format }, clock, ?_, rfl, rfl, supported, ?_,
      coherent.stored⟩
    · simp [onlyIf, same]
    · exact coherent.exact_size.trans (congrArg _ bytes.symm)
  · simp only [onlyIf, ne_eq, same, not_false_eq_true, if_true]
    rw [run_modifyFramebuffer_then]
    split
    · rw [run_callAllocFramebuffer]
      refine ⟨_, clock + 1, rfl, rfl, rfl, supported, rfl, ?_⟩
      exact host.enough clock { memory.client.framebuffer with format := format, dataSize := _ }
    · rw [run_sequence_returned _ (run_callocPixels host _ _),
        run_sequence_returned _ (run_freePixels host _ _)]
      refine ⟨_, clock + 1, rfl, rfl, rfl, supported, rfl, ?_⟩
      exact Nat.le_of_eq List.length_replicate.symm

/-- A supported format is sent and adopted. -/
theorem run_setPixelFormat (attached : memory.client.transport = some transport)
    (connected : memory.client.state = .connected)
    (coherent : memory.client.framebuffer.Coherent) {format : PixelFormat}
    (supported : format.Supported) (unread sent : List UInt8) (fired : List Callback)
    (clock : Nat) :
    ∃ after later,
      (perform .bits64 0 (.setPixelFormat (some format))).run host.feed memory
          ⟨unread, sent, fired, clock⟩ =
        (.returned (), memory.withFramebuffer after,
          ⟨unread, sent ++ (ClientMessage.setPixelFormat format).encode, fired, later⟩) ∧
      after.format = format ∧ after.extent = memory.client.framebuffer.extent ∧ after.Coherent := by
  obtain ⟨after, later, adopted, kept⟩ := run_adoptPixelFormat host coherent supported unread
    (sent ++ (ClientMessage.setPixelFormat format).encode) fired clock
  refine ⟨after, later, ?_, kept⟩
  have nonnegative := (format.bytesPerPixel_nonneg_iff).mpr supported
  apply (run_requireConnected_then host connected _).trans
  have sends : (sendSetPixelFormat format).run host.feed memory ⟨unread, sent, fired, clock⟩ =
      (.returned (), memory, ⟨unread, sent ++ (ClientMessage.setPixelFormat format).encode, fired,
        clock⟩) := run_transportSend host attached _ _
  rw [bind_eq, run_failIf_then, if_neg nonnegative, bind_eq, run_sequence_returned _ sends]
  exact adopted

/-- A message that is well formed for the client's format is processed, and exactly its
bytes are read. -/
theorem run_processMessage (attached : memory.client.transport = some transport)
    (connected : memory.client.state = .connected)
    (coherent : memory.client.framebuffer.Coherent) {message : ServerMessage}
    (wellFormed : RectUpdate.AllWellFormed memory.client.framebuffer.format.pixelBytes
      memory.client.framebuffer.extent message.rects)
    (rest sent : List UInt8) (fired : List Callback) (clock : Nat) :
    ∃ after pending notified later,
      (perform .bits64 0 .processMessage).run host.feed memory
          ⟨message.encode ++ rest, sent, fired, clock⟩ =
        (.returned (), memory.showing after pending, ⟨rest, sent, notified, later⟩) ∧
      after.format = memory.client.framebuffer.format ∧
      after.extent = RectUpdate.resizeAll memory.client.framebuffer.extent message.rects ∧
      after.Coherent := by
  obtain ⟨after, pending, later, decoded, shown, kept⟩ :=
    recvServerMessage_decoded host attached coherent message wellFormed rest sent fired clock
  obtain ⟨format, size⟩ := shown.extent
  refine ⟨after, pending, fired ++ message.callbacks.filter memory.client.callbacks.has, later, ?_,
    format, size, kept⟩
  apply (run_requireConnected_then host connected _).trans
  rw [bind_eq, run_sequence, run_attempt, decoded]
  rfl

/-- Without anything to read the call waits. -/
theorem run_processMessage_waits (attached : memory.client.transport = some transport)
    (connected : memory.client.state = .connected) (sent : List UInt8) (fired : List Callback)
    (clock : Nat) :
    (perform .bits64 0 .processMessage).run host.feed memory ⟨[], sent, fired, clock⟩ =
      (.waiting, memory, ⟨[], sent, fired, clock⟩) := by
  apply (run_requireConnected_then host connected _).trans
  have waits : (transportRecv 1).run host.feed memory ⟨[], sent, fired, clock⟩ =
      (.waiting, memory, ⟨[], sent, fired, clock⟩) := by
    unfold transportRecv
    rw [bind_eq, run_sequence_returned _ (run_derefTransport attached _)]
    rfl
  rw [bind_eq, run_sequence, run_attempt, recvServerMessage, bind_eq, run_sequence, waits]
  rfl

end Calls

/-! ## Pixels and the number of bytes -/

/-- Rectangles without pixels are well formed for every format. -/
theorem RectUpdate.allWellFormed_of_no_pixels {bpp bpp' : Nat} {size : Extent}
    {updates : List RectUpdate} (blank : ∀ update ∈ updates, ¬ update.HasPixels)
    (wellFormed : AllWellFormed bpp size updates) : AllWellFormed bpp' size updates := by
  induction updates generalizing size with
  | nil => trivial
  | cons update updates inductionHypothesis =>
    refine ⟨?_, inductionHypothesis
      (fun other member => blank other (List.mem_cons_of_mem _ member))
      wellFormed.2⟩
    cases update with
    | desktopSize => trivial
    | raw | cursor => exact absurd trivial (blank _ List.mem_cons_self)

namespace Session

/-- The format that a stream of messages leaves is that of its later part, started from what the
earlier part left. -/
theorem latest_append (format : PixelFormat) (earlier later : List ClientMessage) :
    latest format (earlier ++ later) = latest (latest format earlier) later := List.foldl_append

/-- While no change of the number of bytes is on its way, the server already has the
number it will have. -/
theorem latest_pixelBytes {format : PixelFormat} {queued : List ClientMessage}
    (unchanged : ∀ chosen, .setPixelFormat chosen ∈ queued →
      chosen.pixelBytes = format.pixelBytes) :
    (latest format queued).pixelBytes = format.pixelBytes := by
  induction queued generalizing format with
  | nil => rfl
  | cons message queued inductionHypothesis =>
    have later (chosen : PixelFormat) (member : .setPixelFormat chosen ∈ queued) :
        chosen.pixelBytes = format.pixelBytes := unchanged chosen (List.mem_cons_of_mem _ member)
    cases message with
    | setPixelFormat chosen =>
      have first : chosen.pixelBytes = format.pixelBytes := unchanged chosen List.mem_cons_self
      exact (inductionHypothesis (fun other member => (later other member).trans first.symm)).trans
        first
    | _ => exact inductionHypothesis later

/-- The server handles the first message on its way to it. -/
theorem latest_handle (server : ConformingServer) (message : ClientMessage)
    (queued : List ClientMessage) :
    latest (server.handle message).format queued = latest server.format (message :: queued) := by
  cases message <;> rfl

/-- The bytes to the server parse to the messages on their way. -/
theorem Queued.parses {session : Session} {queued : List ClientMessage}
    (waiting : session.Queued queued) :
    Decoder.all Grammar.clientMessage session.feed.sent = some queued := by
  rw [waiting.1]
  exact all_flatMap queued
    (fun message member => Grammar.reads_clientMessage (waiting.2 message member))
    (fun message _ => message.encode_ne_nil)

end Session

/-! ## The invariant -/

namespace Session

/-- Everything in flight fits the client as it is now, and the server will have the
client's format when it has handled what is on its way to it. -/
structure Harmonious (session : Session) : Prop where
  connected : session.memory.client.state = .connected
  attached : session.memory.client.transport ≠ none
  coherent : session.framebuffer.Coherent
  aligned : session.Aligned
  agreed : session.Agreed
  sameBytes : ∀ delivery ∈ session.inFlight, delivery.message.HasPixels →
    delivery.bytesPerPixel = session.framebuffer.format.pixelBytes
  fits : RectUpdate.AllWellFormed session.framebuffer.format.pixelBytes session.framebuffer.extent
    (session.inFlight.flatMap (fun delivery => delivery.message.rects))
  extent : RectUpdate.resizeAll session.framebuffer.extent
    (session.inFlight.flatMap (fun delivery => delivery.message.rects)) = session.server.extent
  queued : ∃ queued, session.Queued queued ∧
    latest session.server.format queued = session.framebuffer.format

/-- A session that has just been opened. -/
theorem Opened.harmonious {session : Session} (opened : session.Opened) : session.Harmonious := by
  constructor
  case connected => exact opened.connected
  case attached => exact opened.attached
  case coherent => exact opened.coherent
  case aligned => rw [Aligned, opened.unread, opened.inFlight, List.flatMap_nil]
  case agreed => simp [Agreed, opened.processed]
  case sameBytes => simp [opened.inFlight]
  case fits =>
    rw [opened.inFlight]
    trivial
  case extent =>
    rw [opened.inFlight]
    exact opened.extent.symm
  case queued => exact opened.queued

/-- The number of bytes per pixel is changed with care: the client changes it only while
no pixels are in flight to it, and the server sends no pixels while a change is on its
way to it. -/
structure CarefulStep (host : Host) (before : Session) (action : Action) (after : Session) :
    Prop where
  taken : Step host before action after
  switching : ∀ format result, action = .called (.setPixelFormat (some format)) result →
    format.Supported → format.pixelBytes ≠ before.framebuffer.format.pixelBytes →
    ∀ delivery ∈ before.inFlight, ¬ delivery.message.HasPixels
  sending : ∀ message, action = .sent message → message.HasPixels →
    ∀ queued, Decoder.all Grammar.clientMessage before.feed.sent = some queued →
    ∀ format, .setPixelFormat format ∈ queued → format.pixelBytes = before.server.format.pixelBytes

/-- The client has sent a message and may have taken over a format with it. -/
theorem Harmonious.informs {session : Session} (harmonious : session.Harmonious)
    {message : ClientMessage} (encodable : message.Encodable) {after : Framebuffer}
    (coherent : after.Coherent) (same : after.extent = session.framebuffer.extent)
    (adopted : after.format = latest session.framebuffer.format [message])
    (careful : after.format.pixelBytes ≠ session.framebuffer.format.pixelBytes →
      ∀ delivery ∈ session.inFlight, ¬ delivery.message.HasPixels)
    {fired : List Callback} {clock : Nat} :
    Harmonious { session with
      memory := session.memory.withFramebuffer after
      feed := ⟨session.feed.unread, session.feed.sent ++ message.encode, fired, clock⟩ } := by
  constructor
  case connected => exact harmonious.connected
  case attached => exact harmonious.attached
  case coherent => exact coherent
  case aligned => exact harmonious.aligned
  case agreed => exact harmonious.agreed
  case sameBytes =>
    intro delivery member pixels
    change delivery.bytesPerPixel = after.format.pixelBytes
    by_cases bytes : after.format.pixelBytes = session.framebuffer.format.pixelBytes
    · exact (harmonious.sameBytes delivery member pixels).trans bytes.symm
    · exact absurd pixels (careful bytes delivery member)
  case fits =>
    change RectUpdate.AllWellFormed after.format.pixelBytes after.extent _
    rw [same]
    by_cases bytes : after.format.pixelBytes = session.framebuffer.format.pixelBytes
    · rw [bytes]
      exact harmonious.fits
    · refine RectUpdate.allWellFormed_of_no_pixels (fun update member pixels => ?_) harmonious.fits
      obtain ⟨delivery, sent, part⟩ := List.mem_flatMap.mp member
      exact careful bytes delivery sent ⟨update, part, pixels⟩
  case extent =>
    change RectUpdate.resizeAll after.extent _ = _
    rw [same]
    exact harmonious.extent
  case queued =>
    obtain ⟨queued, ⟨sent, encodables⟩, later⟩ := harmonious.queued
    refine ⟨queued ++ [message], ⟨?_, ?_⟩, ?_⟩
    · change session.feed.sent ++ message.encode = _
      rw [sent]
      simp
    · intro other member
      rcases List.mem_append.mp member with before | last
      · exact encodables other before
      · exact List.mem_singleton.mp last ▸ encodable
    · rw [latest_append, later]
      exact adopted.symm

/-- A call other than processing leaves the server's record of the update alone, as it reads
nothing from the stream. -/
theorem afterCall_other {session : Session} {call : ApiCall} (other : call ≠ .processMessage)
    (memory : Memory) (feed : Feed) :
    session.afterCall call memory feed = { session with memory := memory, feed := feed } := by
  unfold afterCall
  split
  · exact absurd rfl other
  · rfl

/-- The client has processed the first message in flight. -/
theorem Harmonious.processed {host : Host} {session : Session} (harmonious : session.Harmonious)
    {result : Except Error Unit} {memory : Memory} {feed : Feed}
    (ran : (perform .bits64 0 .processMessage).run host.feed session.memory session.feed =
      (Outcome.finished result, memory, feed)) :
    Harmonious (session.afterCall .processMessage memory feed) := by
  obtain ⟨transport, attached⟩ := Option.ne_none_iff_exists'.mp harmonious.attached
  obtain ⟨start, ⟨unread, sent, fired, clock⟩, server, inFlight, taken⟩ := session
  cases inFlight with
  | nil =>
    obtain rfl : unread = [] := harmonious.aligned
    rw [run_processMessage_waits host attached harmonious.connected] at ran
    rcases result with error | ⟨⟨⟩⟩ <;> exact absurd (congrArg Prod.fst ran) nofun
  | cons delivery deliveries =>
    have fits := harmonious.fits
    rw [List.flatMap_cons, RectUpdate.allWellFormed_append] at fits
    have extent := harmonious.extent
    rw [List.flatMap_cons, RectUpdate.resizeAll_append] at extent
    have bytes : unread = delivery.message.encode ++
        deliveries.flatMap (fun delivery => delivery.message.encode) := harmonious.aligned
    subst bytes
    obtain ⟨after, pending, notified, later, decoded, format, size, coherent⟩ :=
      run_processMessage host attached harmonious.connected harmonious.coherent fits.1
        (deliveries.flatMap (fun delivery => delivery.message.encode)) sent fired clock
    rw [decoded] at ran
    obtain ⟨-, rfl, rfl⟩ : _ ∧ start.showing after pending = memory ∧ _ = feed := by
      simpa only [Prod.mk.injEq] using ran
    constructor
    case connected => exact harmonious.connected
    case attached => exact harmonious.attached
    case coherent => exact coherent
    case aligned => rfl
    case agreed =>
      intro entry member pixels
      rcases List.mem_append.mp member with before | last
      · exact harmonious.agreed entry before pixels
      · obtain rfl := List.mem_singleton.mp last
        exact harmonious.sameBytes delivery List.mem_cons_self pixels
    case sameBytes =>
      intro other member pixels
      change other.bytesPerPixel = after.format.pixelBytes
      rw [format]
      exact harmonious.sameBytes other (List.mem_cons_of_mem _ member) pixels
    case fits =>
      change RectUpdate.AllWellFormed after.format.pixelBytes after.extent _
      rw [format, size]
      exact fits.2
    case extent =>
      change RectUpdate.resizeAll after.extent _ = _
      rw [size]
      exact extent
    case queued =>
      obtain ⟨queued, waiting, latest⟩ := harmonious.queued
      exact ⟨queued, waiting, latest.trans format.symm⟩

/-- A call of the client. -/
theorem Harmonious.called {host : Host} {session : Session} (harmonious : session.Harmonious)
    {call : ApiCall} {result : Except Error Unit} {memory : Memory} {feed : Feed}
    (made : call.Exchanges)
    (switching : ∀ format, call = .setPixelFormat (some format) → format.Supported →
      format.pixelBytes ≠ session.framebuffer.format.pixelBytes →
      ∀ delivery ∈ session.inFlight, ¬ delivery.message.HasPixels)
    (ran : (perform .bits64 0 call).run host.feed session.memory session.feed =
      (Outcome.finished result, memory, feed)) :
    Harmonious (session.afterCall call memory feed) := by
  obtain ⟨transport, attached⟩ := Option.ne_none_iff_exists'.mp harmonious.attached
  cases call with
  | connect | disconnect | run | sendKeyEvent | sendPointerEvent | sendCutText | setEncodings =>
    exact made.elim
  | processMessage => exact harmonious.processed ran
  | requestUpdate rect incremental =>
    obtain ⟨flag, x, y, width, height, requested⟩ :=
      run_requestUpdate host attached harmonious.connected rect incremental session.feed
    rw [requested] at ran
    obtain ⟨-, rfl, rfl⟩ : _ ∧ session.memory = memory ∧ _ = feed := by
      simpa only [Prod.mk.injEq] using ran
    rw [afterCall_other (by simp)]
    exact @informs _ harmonious (.fbUpdateRequest flag x y width height) trivial session.framebuffer
      harmonious.coherent rfl rfl (fun changed => absurd rfl changed) _ _
  | setPixelFormat format =>
    rw [afterCall_other (by simp)]
    cases format with
    | none =>
      have refused : (.failed .invalidArg, session.memory, session.feed) =
          (Outcome.finished result, memory, feed) := ran
      obtain ⟨-, rfl, rfl⟩ : _ ∧ session.memory = memory ∧ session.feed = feed := by
        simpa only [Prod.mk.injEq] using refused
      exact harmonious
    | some format =>
      by_cases supported : format.Supported
      · obtain ⟨after, later, adopted, chosen, same, coherent⟩ :=
          run_setPixelFormat host attached harmonious.connected harmonious.coherent supported
            session.feed.unread session.feed.sent session.feed.fired session.feed.clock
        rw [adopted] at ran
        obtain ⟨-, rfl, rfl⟩ : _ ∧ session.memory.withFramebuffer after = memory ∧ _ = feed := by
          simpa only [Prod.mk.injEq] using ran
        refine @informs _ harmonious (.setPixelFormat format) trivial after coherent same chosen
          ?_ _ _
        rw [chosen]
        exact switching format rfl supported
      · rw [run_setPixelFormat_refused host harmonious.connected supported] at ran
        obtain ⟨-, rfl, rfl⟩ : _ ∧ session.memory = memory ∧ session.feed = feed := by
          simpa only [Prod.mk.injEq] using ran
        exact harmonious

/-- The server has handled the first message on its way to it. -/
theorem Harmonious.handled {session : Session} (harmonious : session.Harmonious)
    {message : ClientMessage} {rest : List UInt8}
    (arrived : Grammar.clientMessage session.feed.sent = some (message, rest)) :
    Harmonious { session with
      feed := { session.feed with sent := rest }, server := session.server.handle message } := by
  obtain ⟨queued, ⟨sent, encodables⟩, later⟩ := harmonious.queued
  cases queued with
  | nil =>
    rw [sent] at arrived
    cases arrived
  | cons first queued =>
    have reads := Grammar.reads_clientMessage (encodables first List.mem_cons_self)
      (queued.flatMap ClientMessage.encode)
    rw [sent, List.flatMap_cons, reads] at arrived
    obtain ⟨rfl, rfl⟩ : first = message ∧ queued.flatMap ClientMessage.encode = rest := by
      simpa using arrived
    have extent : (session.server.handle first).extent = session.server.extent := by
      cases first <;> rfl
    refine { harmonious with extent := harmonious.extent.trans extent.symm, queued := ?_ }
    refine ⟨queued, ⟨rfl, fun other member => encodables other (List.mem_cons_of_mem _ member)⟩, ?_⟩
    rw [latest_handle]
    exact later

/-- The server has sent a message, and there are no pixels in it while the number of bytes
is about to change. -/
theorem Harmonious.sent {session : Session} (harmonious : session.Harmonious)
    {message : ServerMessage} (conforms : session.server.MaySend message)
    (sending : message.HasPixels → ∀ queued,
      Decoder.all Grammar.clientMessage session.feed.sent = some queued →
      ∀ format, .setPixelFormat format ∈ queued →
        format.pixelBytes = session.server.format.pixelBytes) :
    Harmonious { session with
      feed := { session.feed with unread := session.feed.unread ++ message.encode }
      server := session.server.send message
      inFlight := session.inFlight ++ [⟨message, session.server.format.pixelBytes⟩] } := by
  have sameBytes (pixels : message.HasPixels) :
      session.server.format.pixelBytes = session.framebuffer.format.pixelBytes := by
    obtain ⟨queued, waiting, later⟩ := harmonious.queued
    rw [← later]
    exact (latest_pixelBytes (sending pixels queued waiting.parses)).symm
  constructor
  case connected => exact harmonious.connected
  case attached => exact harmonious.attached
  case coherent => exact harmonious.coherent
  case aligned =>
    change session.feed.unread ++ message.encode = _
    rw [harmonious.aligned]
    simp
  case agreed => exact harmonious.agreed
  case sameBytes =>
    intro delivery member pixels
    rcases List.mem_append.mp member with before | last
    · exact harmonious.sameBytes delivery before pixels
    · obtain rfl := List.mem_singleton.mp last
      exact sameBytes pixels
  case fits =>
    rw [List.flatMap_append, List.flatMap_singleton, RectUpdate.allWellFormed_append]
    refine ⟨harmonious.fits, ?_⟩
    change RectUpdate.AllWellFormed session.framebuffer.format.pixelBytes
      (RectUpdate.resizeAll session.framebuffer.extent _) message.rects
    rw [harmonious.extent]
    by_cases pixels : message.HasPixels
    · rw [← sameBytes pixels]
      exact conforms.1
    · exact RectUpdate.allWellFormed_of_no_pixels
        (fun update member has => pixels ⟨update, member, has⟩) conforms.1
  case extent =>
    rw [List.flatMap_append, List.flatMap_singleton, RectUpdate.resizeAll_append]
    change RectUpdate.resizeAll (RectUpdate.resizeAll session.framebuffer.extent _)
      message.rects = _
    rw [harmonious.extent]
    rfl
  case queued => exact harmonious.queued

/-- One careful step. -/
theorem Harmonious.step {host : Host} {before after : Session} {action : Action}
    (harmonious : before.Harmonious) (stepped : CarefulStep host before action after) :
    after.Harmonious := by
  obtain ⟨taken, switching, sending⟩ := stepped
  cases taken with
  | called made ran =>
    refine harmonious.called made (fun format same => ?_) ran
    exact switching format _ (by rw [same])
  | handled arrived => exact harmonious.handled arrived
  | sent conforms => exact harmonious.sent conforms (sending _ rfl)

end Session

/-- In every run of careful steps the client is between two messages, and every message
with pixels was processed with the bytes per pixel it was encoded with. -/
theorem careful_agreed {host : Host} {start session : Session} (opened : start.Opened)
    {actions : List Session.Action} (run : Run (Session.CarefulStep host) start actions session) :
    session.Aligned ∧ session.Agreed ∧ session.memory.client.state = .connected := by
  have harmonious : session.Harmonious :=
    run.state_invariant Session.Harmonious opened.harmonious (fun _ _ _ held => held.step)
  exact ⟨harmonious.aligned, harmonious.agreed, harmonious.connected⟩

/-! ## A change while an update is in flight -/

namespace Session

/-- The session after a call that the plain host answers. -/
def afterRun (session : Session) (call : ApiCall) : Session :=
  session.afterCall call
    ((perform .bits64 0 call).run plainHost.feed session.memory session.feed).2.1
    ((perform .bits64 0 call).run plainHost.feed session.memory session.feed).2.2

/-- The run of a call on the example's host is a step of the session, when it returns. -/
theorem Step.of_run {session : Session} {call : ApiCall} (made : call.Exchanges)
    (returned : ((perform .bits64 0 call).run plainHost.feed session.memory session.feed).1 =
      .returned ()) :
    Step plainHost session (.called call (.ok ())) (session.afterRun call) := by
  refine .called made ?_
  rw [show Outcome.finished (.ok ()) = .returned () from rfl, ← returned]

/-- The session that the plain handshake leaves. -/
def plain : Session where
  memory := (plainConnected {}).2.1
  feed := { unread := [] }
  server := ⟨.initDefault, ⟨2, 1⟩, 0⟩

/-- The example starts as a session does: the client just connected, with nothing under way. -/
theorem plain_opened : plain.Opened := by
  constructor
  case connected => exact plainConnected_returned.2
  case attached => decide
  case coherent => exact ⟨by decide, by decide, by decide⟩
  case unread => rfl
  case inFlight => rfl
  case processed => rfl
  case extent => decide
  case queued => exact ⟨[], ⟨rfl, by simp⟩, by decide⟩

/-- The client asks for an update, and the server has read the request. -/
def requested : Session :=
  { plain.afterRun (.requestUpdate none 0) with
    feed := { (plain.afterRun (.requestUpdate none 0)).feed with sent := [] }
    server := plain.server.handle (.fbUpdateRequest 0 0 0 2 1) }

/-- An update of one pixel of four bytes. -/
def onePixel : ServerMessage := .framebufferUpdate ⟨[.raw ⟨0, 0, 1, 1⟩ [1, 2, 3, 4]], by decide⟩

/-- The server has answered. -/
def answered : Session :=
  { requested with
    feed := { requested.feed with unread := requested.feed.unread ++ onePixel.encode }
    server := requested.server.send onePixel
    inFlight := requested.inFlight ++ [⟨onePixel, requested.server.format.pixelBytes⟩] }

/-- A format of one byte per pixel. -/
def eightBits : PixelFormat := { PixelFormat.initDefault with bitsPerPixel := 8, depth := 8 }

/-- The client changes the format and processes the answer. -/
def misread : Session :=
  (answered.afterRun (.setPixelFormat (some eightBits))).afterRun .processMessage

/-- Three bytes of the pixel are left where the next message should begin. -/
theorem misread_unread : misread.feed.unread = [2, 3, 4] := by decide

/-- In the example an update of the whole screen is asked for, and the server takes the request.
-/
theorem plain_requested : Run (CarefulStep plainHost) plain
    [.called (.requestUpdate none 0) (.ok ()), .handled (.fbUpdateRequest 0 0 0 2 1)]
    requested := by
  have asks : Step plainHost plain (.called (.requestUpdate none 0) (.ok ()))
      (plain.afterRun (.requestUpdate none 0)) := .of_run trivial (by decide)
  have reads : Step plainHost (plain.afterRun (.requestUpdate none 0))
      (.handled (.fbUpdateRequest 0 0 0 2 1)) requested :=
    .handled (by decide : Grammar.clientMessage (plain.afterRun (.requestUpdate none 0)).feed.sent =
      some (.fbUpdateRequest 0 0 0 2 1, []))
  exact (Run.nil.snoc ⟨asks, nofun, nofun⟩).snoc ⟨reads, nofun, nofun⟩

/-- The server answers with one pixel, which is an update it may send. -/
theorem requested_answered : CarefulStep plainHost requested (.sent onePixel) answered := by
  have conforms : requested.server.MaySend onePixel :=
    ⟨⟨⟨by decide, by decide, by decide⟩, trivial⟩, (by decide : 0 < requested.server.requests)⟩
  refine ⟨.sent conforms, nofun, fun message _ _ queued parsed format member => ?_⟩
  obtain rfl : [] = queued := Option.some.inj parsed
  exact absurd member List.not_mem_nil

end Session

/-- The client changes to a format of one byte per pixel while a pixel of four bytes is in
flight: it processes the update without an error and stops in the middle of it. -/
theorem format_change_misreads :
    ¬ ∀ (host : Host) (start session : Session) (actions : List Session.Action), start.Opened →
      Run (Session.Step host) start actions session → session.Aligned ∧ session.Agreed := by
  intro agrees
  have switches : Session.Step plainHost Session.answered _
      (Session.answered.afterRun (.setPixelFormat (some Session.eightBits))) :=
    .of_run trivial (by decide)
  have processes : Session.Step plainHost _ _ Session.misread := .of_run trivial (by decide)
  have run := (Session.plain_requested.snoc Session.requested_answered).weaken
    (fun _ _ _ stepped => stepped.taken)
  have aligned :=
    (agrees plainHost _ _ _ Session.plain_opened ((run.snoc switches).snoc processes)).1
  rw [Session.Aligned, Session.misread_unread] at aligned
  exact absurd aligned (by decide)

/-- The same change after the update has been processed. -/
theorem careful_agreed_patient : ∃ actions session,
    Run (Session.CarefulStep plainHost) Session.plain actions session ∧ session.Aligned ∧
      session.Agreed ∧ session.processed ≠ [] ∧ session.framebuffer.format = Session.eightBits := by
  have processes : Session.CarefulStep plainHost Session.answered (.called .processMessage (.ok ()))
      (Session.answered.afterRun .processMessage) :=
    ⟨.of_run trivial (by decide), nofun, nofun⟩
  have switches : Session.CarefulStep plainHost (Session.answered.afterRun .processMessage)
      (.called (.setPixelFormat (some Session.eightBits)) (.ok ()))
      ((Session.answered.afterRun .processMessage).afterRun
        (.setPixelFormat (some Session.eightBits))) := by
    refine ⟨.of_run trivial (by decide), fun _ _ _ _ _ delivery member => ?_, nofun⟩
    exact absurd member List.not_mem_nil
  have run :=
    ((Session.plain_requested.snoc Session.requested_answered).snoc processes).snoc switches
  obtain ⟨aligned, agreed, -⟩ := careful_agreed Session.plain_opened run
  exact ⟨_, _, run, aligned, agreed, List.cons_ne_nil _ _, by decide⟩

end OpenVnc
