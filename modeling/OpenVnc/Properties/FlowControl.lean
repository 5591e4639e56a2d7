import OpenVnc.ViewerRuns

/-!
# One request or update at a time

The example client requests the next update from inside the callback that reports the end of one.
In every run there is exactly one request or update under way: as a request on its way to the
server, as one the server has not answered, or as an update on its way back. So neither side is
flooded, no request is lost, and the two never wait for each other.
-/

namespace OpenVnc

open Interaction Interaction.Program Codec

/-- Messages that are no SetPixelFormat leave the format as it is. -/
theorem Session.latest_unchanged {format : PixelFormat} {queued : List ClientMessage}
    (unchanged : ∀ chosen, .setPixelFormat chosen ∉ queued) : latest format queued = format := by
  induction queued with
  | nil => rfl
  | cons message queued inductionHypothesis =>
    have later : latest format queued = format :=
      inductionHypothesis (fun chosen member => unchanged chosen (List.mem_cons_of_mem _ member))
    cases message with
    | setPixelFormat chosen => exact absurd List.mem_cons_self (unchanged chosen)
    | _ => exact later

/-- A call that processes a message processes the first one in flight. -/
theorem Session.afterCall_first {session : Session} {delivery : Delivery}
    {deliveries : List Delivery} (flying : session.inFlight = delivery :: deliveries)
    (memory : Memory) (feed : Feed) :
    session.afterCall .processMessage memory feed = { session with
      memory := memory
      feed := feed
      inFlight := deliveries
      processed := session.processed ++
        [(delivery, session.framebuffer.format.pixelBytes)] } := by
  simp only [afterCall, flying]

/-- No message of the client is about the size of the screen. -/
theorem ConformingServer.handle_extent (server : ConformingServer) (message : ClientMessage) :
    (server.handle message).extent = server.extent := by
  cases message <;> rfl

/-- A call that returns has no error. -/
theorem Outcome.ok_of_finished {result : Except Error Unit}
    (finished : .returned () = Outcome.finished result) : result = .ok () := by
  rcases result with error | ⟨⟨⟩⟩
  · exact absurd finished nofun
  · rfl

namespace Viewer

variable {host : Host} {viewer : Viewer}

/-- One request or update is under way, and no change of the format. -/
structure Controlled (viewer : Viewer) : Prop where
  harmonious : viewer.session.Harmonious
  answered : viewer.session.memory.client.callbacks.framebufferUpdateFinished = true
  balanced : ∃ queued, viewer.session.Queued queued ∧
    (∀ format, .setPixelFormat format ∉ queued) ∧
    updatesInFlight viewer.session + viewer.session.server.requests + requestsIn queued = 1

/-- The two sides have the same format. -/
theorem Controlled.format (controlled : viewer.Controlled) :
    viewer.session.server.format = viewer.session.framebuffer.format := by
  obtain ⟨queued, waiting, unchanged, -⟩ := controlled.balanced
  obtain ⟨queued', waiting', latest⟩ := controlled.harmonious.queued
  obtain rfl : queued = queued' := Option.some.inj (waiting.parses.symm.trans waiting'.parses)
  exact (Session.latest_unchanged unchanged).symm.trans latest

/-- A request of the client. -/
theorem makesRequest {session : Session} {queued : List ClientMessage} {transport : Transport}
    (waiting : session.Queued queued)
    (unchanged : ∀ format, .setPixelFormat format ∉ queued)
    (attached : session.memory.client.transport = some transport)
    (connected : session.memory.client.state = .connected)
    {rect : Option Rect} {incremental : Int32} {result : Except Error Unit} {memory : Memory}
    {feed : Feed}
    (ran : (perform .bits64 0 (.requestUpdate rect incremental)).run host.feed session.memory
      session.feed = (Outcome.finished result, memory, feed)) :
    result = .ok () ∧ memory = session.memory ∧ ∃ queued',
      Session.Queued { session with memory := memory, feed := feed } queued' ∧
        (∀ format, .setPixelFormat format ∉ queued') ∧
          requestsIn queued' = requestsIn queued + 1 := by
  obtain ⟨flag, x, y, width, height, sent⟩ :=
    run_requestUpdate host attached connected rect incremental session.feed
  rw [sent] at ran
  obtain ⟨finished, rfl, rfl⟩ : _ ∧ session.memory = memory ∧ _ = feed := by
    simpa only [Prod.mk.injEq] using ran
  refine ⟨Outcome.ok_of_finished finished, rfl,
    queued ++ [.fbUpdateRequest flag x y width height], ⟨?_, ?_⟩, ?_, ?_⟩
  · simp [waiting.1]
  · intro message member
    rcases List.mem_append.mp member with before | last
    · exact waiting.2 message before
    · obtain rfl := List.mem_singleton.mp last
      trivial
  · intro format member
    rcases List.mem_append.mp member with before | last
    · exact unchanged format before
    · exact absurd (List.mem_singleton.mp last) nofun
  · simp [requestsIn, isRequest]

/-- What an iteration does with the first message in flight. -/
theorem Controlled.runs (host : Host) (controlled : viewer.Controlled) {delivery : Delivery}
    {deliveries : List Delivery} (flying : viewer.session.inFlight = delivery :: deliveries) :
    ∃ after pending notified later,
      (perform .bits64 0 .processMessage).run host.feed viewer.session.memory viewer.session.feed =
        (.returned (), viewer.session.memory.showing after pending,
          ⟨deliveries.flatMap (fun delivery => delivery.message.encode), viewer.session.feed.sent,
            notified, later⟩) ∧
      RectUpdate.ShowAll viewer.session.memory.client.callbacks.allocFramebuffer
        delivery.message.rects viewer.session.framebuffer after ∧
      (reenter .bits64 (perform .bits64 0 .processMessage)).run
          (host.reacting simpleClientReaction) viewer.session.memory viewer.session.feed =
        if isUpdate delivery.message then
          (perform .bits64 0 (.requestUpdate none 1)).run host.feed
            (viewer.session.memory.showing after pending)
            ⟨deliveries.flatMap (fun delivery => delivery.message.encode),
              viewer.session.feed.sent, notified, later⟩
        else (.returned (), viewer.session.memory.showing after pending,
          ⟨deliveries.flatMap (fun delivery => delivery.message.encode), viewer.session.feed.sent,
            notified, later⟩) := by
  have harmonious := controlled.harmonious
  obtain ⟨transport, attached⟩ := Option.ne_none_iff_exists'.mp harmonious.attached
  have fits := harmonious.fits
  rw [flying, List.flatMap_cons, RectUpdate.allWellFormed_append] at fits
  have bytes : viewer.session.feed.unread = delivery.message.encode ++
      deliveries.flatMap (fun delivery => delivery.message.encode) := by
    rw [harmonious.aligned, flying, List.flatMap_cons]
  have feeds : viewer.session.feed = ⟨delivery.message.encode ++
      deliveries.flatMap (fun delivery => delivery.message.encode), viewer.session.feed.sent,
        viewer.session.feed.fired, viewer.session.feed.clock⟩ := by rw [← bytes]
  rw [feeds]
  exact run_iteration attached harmonious.connected controlled.answered harmonious.coherent
    delivery.message fits.1 _ _ _ _

/-- An iteration finds a message in flight and processes it, and if it is an update the next
request is on its way. -/
theorem Controlled.iteration (controlled : viewer.Controlled) {result : Except Error Unit}
    {memory : Memory} {feed : Feed}
    (ran : (reenter .bits64 (perform .bits64 0 .processMessage)).run
      (host.reacting simpleClientReaction) viewer.session.memory viewer.session.feed =
        (Outcome.finished result, memory, feed)) :
    result = .ok () ∧
      (∃ delivery deliveries, viewer.session.inFlight = delivery :: deliveries ∧
        RectUpdate.ShowAll memory.client.callbacks.allocFramebuffer delivery.message.rects
          viewer.session.framebuffer memory.client.framebuffer) ∧
      memory.client.callbacks = viewer.session.memory.client.callbacks ∧
      Controlled { viewer with
        session := viewer.session.afterCall .processMessage memory feed } := by
  obtain ⟨⟨start, ⟨unread, sent, fired, clock⟩, server, inFlight, processed⟩, screen, dirty⟩ :=
    viewer
  obtain ⟨transport, attached⟩ := Option.ne_none_iff_exists'.mp controlled.harmonious.attached
  obtain ⟨queued, waiting, unchanged, balance⟩ := controlled.balanced
  cases inFlight with
  | nil =>
    obtain rfl : unread = [] := controlled.harmonious.aligned
    have waits :=
      run_processMessage_waits host attached controlled.harmonious.connected sent fired clock
    rw [run_reenter (by rw [waits]; exact (List.append_nil _).symm) (by simp), waits] at ran
    rcases result with error | ⟨⟨⟩⟩ <;> exact absurd (congrArg Prod.fst ran) nofun
  | cons delivery deliveries =>
    obtain ⟨after, pending, notified, later, decoded, shown, iterated⟩ := controlled.runs host rfl
    let middle : Session := ⟨start.showing after pending,
      ⟨deliveries.flatMap (fun delivery => delivery.message.encode), sent, notified, later⟩, server,
      deliveries, processed ++ [(delivery, start.client.framebuffer.format.pixelBytes)]⟩
    have received : middle.Harmonious :=
      @Session.Harmonious.processed host _ controlled.harmonious (.ok ()) _ _ decoded
    rw [iterated] at ran
    rw [updatesInFlight, List.countP_cons] at balance
    cases update : isUpdate delivery.message with
    | false =>
      rw [update] at ran balance
      obtain ⟨finished, rfl, rfl⟩ : _ ∧ start.showing after pending = memory ∧ _ = feed := by
        simpa using ran
      exact ⟨Outcome.ok_of_finished finished, ⟨delivery, deliveries, rfl, shown⟩, rfl, received,
        controlled.answered, queued, waiting, unchanged, balance⟩
    | true =>
      rw [update] at ran balance
      obtain ⟨rfl, rfl, queued', waiting', unchanged', more⟩ :=
        @makesRequest host middle queued transport waiting unchanged attached received.connected
          none 1 result memory feed ran
      refine ⟨rfl, ⟨delivery, deliveries, rfl, shown⟩, rfl, ?_, controlled.answered, queued',
        waiting', unchanged', ?_⟩
      · exact @Session.Harmonious.called host middle received (.requestUpdate none 1) _ _ _ trivial
          nofun ran
      · have one : updatesInFlight middle + 1 + server.requests + requestsIn queued = 1 := balance
        change updatesInFlight middle + server.requests + requestsIn queued' = 1
        omega

/-- There is an iteration when a message is in flight. -/
theorem Controlled.iterates (host : Host) (controlled : viewer.Controlled) {delivery : Delivery}
    {deliveries : List Delivery} (flying : viewer.session.inFlight = delivery :: deliveries) :
    ∃ memory feed, Step host viewer (.iterated (.ok ()))
      { viewer with session := viewer.session.afterCall .processMessage memory feed } := by
  obtain ⟨transport, attached⟩ := Option.ne_none_iff_exists'.mp controlled.harmonious.attached
  obtain ⟨after, pending, notified, later, -, -, iterated⟩ := controlled.runs host flying
  cases update : isUpdate delivery.message with
  | false =>
    rw [update] at iterated
    exact ⟨_, _, .iterated iterated⟩
  | true =>
    obtain ⟨flag, x, y, width, height, requested⟩ :=
      @run_requestUpdate host (viewer.session.memory.showing after pending) transport attached
        controlled.harmonious.connected none 1 ⟨deliveries.flatMap (fun delivery =>
          delivery.message.encode), viewer.session.feed.sent, notified, later⟩
    rw [update, if_pos rfl, requested] at iterated
    exact ⟨_, _, .iterated iterated⟩

/-- A request that the server handles is one that it has not answered. -/
theorem Controlled.handled (controlled : viewer.Controlled) {message : ClientMessage}
    {rest : List UInt8}
    (arrived : Grammar.clientMessage viewer.session.feed.sent = some (message, rest)) :
    Controlled { viewer with session := { viewer.session with
      feed := { viewer.session.feed with sent := rest }
      server := viewer.session.server.handle message } } := by
  obtain ⟨queued, waiting, unchanged, balance⟩ := controlled.balanced
  obtain ⟨queued', rfl, rfl⟩ : ∃ queued', queued = message :: queued' ∧
      rest = queued'.flatMap ClientMessage.encode := by
    cases queued with
    | nil =>
      rw [waiting.1] at arrived
      cases arrived
    | cons first queued =>
      have reads := Grammar.reads_clientMessage (waiting.2 first List.mem_cons_self)
        (queued.flatMap ClientMessage.encode)
      rw [waiting.1, List.flatMap_cons, reads] at arrived
      obtain ⟨rfl, rfl⟩ : first = message ∧ queued.flatMap ClientMessage.encode = rest := by
        simpa using arrived
      exact ⟨queued, rfl, rfl⟩
  refine ⟨controlled.harmonious.handled arrived, controlled.answered, queued',
    ⟨rfl, fun other member => waiting.2 other (List.mem_cons_of_mem _ member)⟩,
    fun format member => unchanged format (List.mem_cons_of_mem _ member), ?_⟩
  rw [requestsIn, List.countP_cons] at balance
  change updatesInFlight viewer.session + (viewer.session.server.handle message).requests +
    requestsIn queued' = 1
  rw [← balance]
  cases message with
  | fbUpdateRequest =>
    simp only [ConformingServer.handle, isRequest, requestsIn, if_true]
    omega
  | _ => rfl

/-- An update that the server sends answers a request. -/
theorem Controlled.sent (controlled : viewer.Controlled) {message : ServerMessage}
    (conforms : viewer.session.server.MaySend message) (dirty : Region) :
    Controlled { viewer with
      session := { viewer.session with
        feed := { viewer.session.feed with
          unread := viewer.session.feed.unread ++ message.encode }
        server := viewer.session.server.send message
        inFlight := viewer.session.inFlight ++
          [⟨message, viewer.session.server.format.pixelBytes⟩] }
      dirty := dirty } := by
  obtain ⟨queued, waiting, unchanged, balance⟩ := controlled.balanced
  refine ⟨controlled.harmonious.sent conforms (fun _ queued' parses format member => ?_),
    controlled.answered, queued, waiting, unchanged, ?_⟩
  · obtain rfl := Option.some.inj (waiting.parses.symm.trans parses)
    exact absurd member (unchanged format)
  · change (viewer.session.inFlight ++ _).countP _ + _ + _ = 1
    rw [List.countP_append, List.countP_singleton]
    cases message with
    | framebufferUpdate rects =>
      have requested : 0 < viewer.session.server.requests := conforms.2
      change updatesInFlight viewer.session + 1 + (viewer.session.server.requests - 1) +
        requestsIn queued = 1
      omega
    | _ => exact balance

/-- One step. -/
theorem Controlled.step {after : Viewer} {action : Action} (controlled : viewer.Controlled)
    (stepped : Step host viewer action after) : after.Controlled := by
  cases stepped with
  | iterated ran => exact (controlled.iteration ran).2.2.2
  | handled arrived => exact controlled.handled arrived
  | sent conforms => exact controlled.sent conforms _
  | drawn => exact ⟨controlled.harmonious, controlled.answered, controlled.balanced⟩

/-- The client has made its first request. -/
theorem Started.controlled (started : viewer.Started host) : viewer.Controlled := by
  obtain ⟨⟨opened, opens, unanswered, ⟨queued, waiting, none, unchanged⟩, answered, asked⟩, -⟩ :=
    started
  obtain ⟨transport, attached⟩ := Option.ne_none_iff_exists'.mp opens.attached
  obtain ⟨session, screen, dirty⟩ := viewer
  cases asked with
  | called made ran =>
    obtain ⟨-, rfl, queued', waiting', unchanged', more⟩ :=
      makesRequest waiting unchanged attached opens.connected ran
    refine ⟨opens.harmonious.called made nofun ran, answered, queued', waiting', unchanged', ?_⟩
    change updatesInFlight opened + opened.server.requests + requestsIn queued' = 1
    rw [more, none, unanswered, updatesInFlight, opens.inFlight]
    rfl

/-- The server can handle the first message on its way to it. -/
theorem handles (host : Host) {message : ClientMessage} {queued : List ClientMessage}
    (waiting : viewer.session.Queued (message :: queued)) :
    Step host viewer (.handled message) { viewer with session := { viewer.session with
      feed := { viewer.session.feed with sent := queued.flatMap ClientMessage.encode }
      server := viewer.session.server.handle message } } := by
  apply Step.handled
  rw [waiting.1, List.flatMap_cons]
  exact Grammar.reads_clientMessage (waiting.2 message List.mem_cons_self) _

/-- Whatever is under way, there is a step that takes it further: a message on its way to the
server can be handled, one on its way to the client processed, and otherwise there is a request
to answer. -/
theorem Controlled.proceeds (controlled : viewer.Controlled) :
    ∃ action after, action.Advances ∧ Step host viewer action after := by
  obtain ⟨queued, waiting, -, balance⟩ := controlled.balanced
  cases queued with
  | cons message queued => exact ⟨.handled message, _, trivial, handles host waiting⟩
  | nil =>
    cases flying : viewer.session.inFlight with
    | nil =>
      rw [updatesInFlight, flying] at balance
      have one : 0 + viewer.session.server.requests + 0 = 1 := balance
      have conforms : viewer.session.server.MaySend (.framebufferUpdate ⟨[], by decide⟩) :=
        ⟨trivial, show 0 < viewer.session.server.requests by omega⟩
      exact ⟨.sent (.framebufferUpdate ⟨[], by decide⟩), _, rfl,
        .sent conforms (fun _ member => absurd member List.not_mem_nil)⟩
    | cons delivery deliveries =>
      obtain ⟨memory, feed, iterated⟩ := controlled.iterates host flying
      exact ⟨.iterated (.ok ()), _, rfl, iterated⟩

/-- In every run from the first request there is exactly one request or update under way, every
iteration of the client succeeds, and there is always a step of the client or the server that
takes the request or the update further. -/
theorem flow_controlled {start : Viewer} (started : start.Started host) {actions : List Action}
    (run : Run (Step host) start actions viewer) :
    viewer.session.memory.client.state = .connected ∧ viewer.session.Aligned ∧
      (∃ queued, viewer.session.Queued queued ∧
        updatesInFlight viewer.session + viewer.session.server.requests + requestsIn queued = 1) ∧
      (∀ result, .iterated result ∈ actions → result = .ok ()) ∧
      ∃ action after, action.Advances ∧ Step host viewer action after := by
  have held : viewer.Controlled ∧ ∀ result, .iterated result ∈ actions → result = .ok () := by
    refine run.invariant (fun actions viewer =>
      viewer.Controlled ∧ ∀ result, Action.iterated result ∈ actions → result = .ok ())
      ⟨started.controlled, by simp⟩ ?_
    rintro history before action after ⟨controlled, succeeded⟩ stepped
    refine ⟨controlled.step stepped, fun result member => ?_⟩
    rcases List.mem_append.mp member with earlier | last
    · exact succeeded result earlier
    · obtain rfl := List.mem_singleton.mp last
      cases stepped with
      | iterated ran => exact (controlled.iteration ran).1
  obtain ⟨controlled, succeeded⟩ := held
  obtain ⟨queued, waiting, -, balance⟩ := controlled.balanced
  exact ⟨controlled.harmonious.connected, controlled.harmonious.aligned,
    ⟨queued, waiting, balance⟩, succeeded, controlled.proceeds⟩

/-- The example client as `ovnc_client_connect` leaves it. Its list of encodings is on the way. -/
def exampleOpened : Session where
  memory := ((clientConnect .bits64).run plainHost.feed
    ⟨freshClient "localhost" (simpleClientConfig "localhost" 5900) simpleClientCallbacks, 0, 0⟩
    { unread := plainGreeting }).2.1
  feed := {
    unread := []
    sent := (ClientMessage.setEncodings
      [encodingRaw, encodingDesktopSize, encodingCursor]).encode }
  server := ⟨.initDefault, ⟨2, 1⟩, 0⟩

/-- The example client after its first request. Nothing of the screen has been sent. -/
def exampleStarted (screen : Screen) : Viewer where
  session := exampleOpened.afterRun (.requestUpdate none 0)
  screen := screen
  dirty _ _ := True

/-- In the example's start the server has the list of encodings before it. -/
theorem exampleOpened_queued : exampleOpened.Queued
    [.setEncodings [encodingRaw, encodingDesktopSize, encodingCursor]] := by
  refine ⟨(List.append_nil _).symm, fun message member => ?_⟩
  obtain rfl := List.mem_singleton.mp member
  exact (by decide : 3 < 2 ^ 16)

/-- The example's session is one that has just been opened. -/
theorem exampleOpened_opened : exampleOpened.Opened := by
  constructor
  case connected => decide
  case attached => decide
  case coherent => exact ⟨by decide, by decide, by decide⟩
  case unread => rfl
  case inFlight => rfl
  case processed => rfl
  case extent => decide
  case queued => exact ⟨_, exampleOpened_queued, by decide⟩

/-- The example's viewer has asked for the first update, whatever the screen is. -/
theorem exampleStarted_started (screen : Screen) : (exampleStarted screen).Started plainHost where
  requested := ⟨exampleOpened, exampleOpened_opened, rfl,
    ⟨_, exampleOpened_queued, rfl, fun _ member => absurd (List.mem_singleton.mp member) nofun⟩,
    by decide, .of_run trivial (by decide)⟩
  unsent _ _ := trivial

/-- Its first request is the second message in the queue, after the encodings. -/
theorem exampleStarted_queued (screen : Screen) : (exampleStarted screen).session.Queued
    [.setEncodings [encodingRaw, encodingDesktopSize, encodingCursor],
      .fbUpdateRequest 0 0 0 2 1] := by
  refine ⟨(by decide : (exampleOpened.afterRun (.requestUpdate none 0)).feed.sent = _), ?_⟩
  rw [List.forall_mem_cons, List.forall_mem_singleton]
  exact ⟨(by decide : 3 < 2 ^ 16), trivial⟩

/-- In the example the server takes the encodings. The formats are agreed on, and one request is
under way. -/
theorem flow_controlled_example : ∃ viewer,
    Run (Step plainHost) (exampleStarted (fun _ _ _ => 0))
      [.handled (.setEncodings [encodingRaw, encodingDesktopSize, encodingCursor])] viewer ∧
    viewer.session.Aligned ∧ ∃ queued, viewer.session.Queued queued ∧
      updatesInFlight viewer.session + viewer.session.server.requests + requestsIn queued = 1 := by
  have run := Run.nil.snoc (handles plainHost (exampleStarted_queued (fun _ _ _ => 0)))
  obtain ⟨-, aligned, balance, -⟩ := flow_controlled (exampleStarted_started _) run
  exact ⟨_, run, aligned, balance⟩

end Viewer

end OpenVnc
