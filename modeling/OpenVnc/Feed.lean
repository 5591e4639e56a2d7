import OpenVnc.Environment

/-!
# A host that serves received bytes

One particular environment, as a handler: the server's bytes wait to be read, a
receive takes as many as it asks for, everything sent and every callback is
logged, and allocations succeed. A receive that asks for more than is there is
not answered. What the allocators hand out is arbitrary and may differ from one
call to the next, so the choice is a function of the number of calls so far.
-/

namespace OpenVnc

open Interaction Interaction.Program

/-- The choices of the host: the identity of each block of pixel storage, the block
the application's allocator stores, and the descriptor of the connection. -/
structure Host where
  block : Nat → Nat
  screen : Nat → Framebuffer → Block
  enough : ∀ clock framebuffer, framebuffer.dataSize ≤ (screen clock framebuffer).bytes.length
  socket : Socket
  valid : socket ≠ invalidSocket

/-- The world of the host: the bytes not yet read, what was sent, the callbacks
that ran, and the number of allocations of pixel storage so far. -/
structure Feed where
  unread : List UInt8
  sent : List UInt8 := []
  fired : List Callback := []
  clock : Nat := 0

/-- The answers of the host. -/
def Host.feed (host : Host) : Handler Request Answer Feed
  | .recv len, feed =>
      if len ≤ feed.unread.length then
        (some (RecvAnswer.complete (feed.unread.take len)),
          { feed with unread := feed.unread.drop len })
      else (none, feed)
  | .send data, feed => (some SendAnswer.complete, { feed with sent := feed.sent ++ data })
  | .malloc _, feed => (some true, feed)
  | .calloc _, feed =>
      (some (some (host.block feed.clock)), { feed with clock := feed.clock + 1 })
  | .free _, feed => (some (), feed)
  | .callocTransport, feed => (some true, feed)
  | .socketConnect .., feed => (some (.ok host.socket), feed)
  | .socketClose _, feed => (some (), feed)
  | .callback call, feed => (some false, { feed with fired := feed.fired ++ [call] })
  | .allocFramebuffer asked, feed =>
      (some (none, { asked with data := some (host.screen feed.clock asked) }),
        { feed with clock := feed.clock + 1 })

/-- The host stays within what a provisioned environment may answer. -/
theorem Host.feed_provisioned (host : Host) (request : Request) (feed : Feed)
    (answer : Answer request) (later : Feed)
    (answered : host.feed request feed = (some answer, later)) :
    Provisioned request answer := by
  cases request with
  | recv len =>
    simp only [Host.feed] at answered
    split at answered
    · next enough =>
      obtain ⟨rfl, -⟩ := by simpa using answered
      exact ⟨List.length_take_of_le enough, trivial, trivial⟩
    · exact absurd answered (by simp)
  | allocFramebuffer asked =>
    obtain ⟨rfl, -⟩ := by simpa [Host.feed] using answered
    exact ⟨trivial, ⟨rfl, _, rfl, host.enough _ _⟩, trivial⟩
  | socketConnect =>
    obtain ⟨rfl, -⟩ := by simpa [Host.feed] using answered
    exact ⟨host.valid, trivial, trivial⟩
  | _ =>
    obtain ⟨rfl, -⟩ := by simpa [Host.feed] using answered
    simp [Provisioned, Allowed, AllocationsSucceed, NoReentry]

/-! ## Running against the host -/

section Running

variable (host : Host) {memory : Memory} {transport : Transport}

/-- The bytes asked for, when they have arrived, are handed over in order. -/
theorem Host.feed_recv (bytes rest sent : List UInt8) (fired : List Callback) (clock : Nat) :
    host.feed (.recv bytes.length) ⟨bytes ++ rest, sent, fired, clock⟩ =
      (some (RecvAnswer.complete bytes), ⟨rest, sent, fired, clock⟩) := by
  simp [Host.feed]

/-- With a transport, the dereference gives it and moves nothing. -/
theorem run_derefTransport {W : Type} {handler : Handler Request Answer W}
    (attached : memory.client.transport = some transport) (world : W) :
    derefTransport.run handler memory world = (.returned transport, memory, world) := by
  simp only [derefTransport, bind_eq, pure_eq, run_load_then, attached, run_done]

/-- A receive takes exactly its bytes from what is unread. -/
theorem run_transportRecv (attached : memory.client.transport = some transport)
    {bytes : List UInt8} {len : Nat} (size : bytes.length = len) (rest : List UInt8)
    (sent : List UInt8) (fired : List Callback) (clock : Nat) :
    (transportRecv len).run host.feed memory ⟨bytes ++ rest, sent, fired, clock⟩ =
      (.returned bytes, memory, ⟨rest, sent, fired, clock⟩) := by
  subst size
  unfold transportRecv
  rw [bind_eq, run_sequence_returned _ (run_derefTransport attached _), bind_eq,
    run_ask_then _ _ _ (host.feed_recv bytes rest sent fired clock)]
  rfl

/-- A send appends its bytes to what was sent. -/
theorem run_transportSend (attached : memory.client.transport = some transport)
    (data : List UInt8) (feed : Feed) :
    (transportSend data).run host.feed memory feed =
      (.returned (), memory, { feed with sent := feed.sent ++ data }) := by
  unfold transportSend
  rw [bind_eq, run_sequence_returned _ (run_derefTransport attached _)]
  rfl

/-- A receive into the framebuffer stores its bytes there. -/
theorem run_transportRecvPixels (attached : memory.client.transport = some transport)
    {bytes : List UInt8} {len offset : Nat} (size : bytes.length = len)
    (room : offset + len ≤ memory.client.framebuffer.capacity) (rest sent : List UInt8)
    (fired : List Callback) (clock : Nat) :
    (transportRecvPixels offset len).run host.feed memory ⟨bytes ++ rest, sent, fired, clock⟩ =
      (.returned (), memory.stored offset bytes, ⟨rest, sent, fired, clock⟩) := by
  subst size
  unfold transportRecvPixels
  rw [bind_eq, run_sequence_returned _ (run_derefTransport attached _), bind_eq,
    run_load_then, bind_eq, run_faultIf_then, if_neg (Nat.not_lt.mpr room), bind_eq,
    run_ask_then _ _ _ (host.feed_recv bytes rest sent fired clock)]
  rfl

/-- The callbacks that have run after one more call. -/
def Feed.notified (feed : Feed) (callbacks : ClientCallbacks) (call : Callback) : Feed :=
  { feed with fired := feed.fired ++ [call].filter callbacks.has }

/-- A callback runs when it is set, and returns without re-entering the library. -/
theorem run_fire (call : Callback) (feed : Feed) :
    (fire call).run host.feed memory feed =
      (.returned (), memory, feed.notified memory.client.callbacks call) := by
  unfold fire
  rw [bind_eq, run_load_then]
  by_cases answered : memory.client.callbacks.has call
  · simp only [onlyIf, answered, if_true, bind_eq]
    rw [run_ask_then host.feed memory feed rfl]
    simp [Feed.notified, answered]
  · simp [onlyIf, answered, Feed.notified]

/-- The library's allocator hands out a zeroed block. -/
theorem run_callocPixels (size : Nat) (feed : Feed) :
    (callocPixels size).run host.feed memory feed =
      (.returned (some ⟨host.block feed.clock, List.replicate size 0⟩), memory,
        { feed with clock := feed.clock + 1 }) := rfl

/-- The application's allocator replaces the block. -/
theorem run_callAllocFramebuffer (feed : Feed) :
    callAllocFramebuffer.run host.feed memory feed =
      (.returned (), memory.withFramebuffer { memory.client.framebuffer with
        data := some (host.screen feed.clock memory.client.framebuffer) },
        { feed with clock := feed.clock + 1 }) := rfl

/-- Freeing the pixels is answered at once and leaves the memory as it is. -/
theorem run_freePixels (data : Option Block) (feed : Feed) :
    (freePixels data).run host.feed memory feed = (.returned (), memory, feed) := by
  cases data with
  | none => rfl
  | some block => rfl

/-- Changing the framebuffer is an update of the memory, which what follows sees. -/
theorem run_modifyFramebuffer_then {α : Type} {handler : Handler Request Answer Feed}
    (change : Framebuffer → Framebuffer) (following : Unit → Routine α) (feed : Feed) :
    (sequence (modifyFramebuffer change) following).run handler memory feed =
      (following ()).run handler
        (memory.withFramebuffer (change memory.client.framebuffer)) feed := rfl

/-- Working storage is always there. -/
theorem run_malloc_then {α : Type} (size : Nat) (following : Bool → Routine α) (feed : Feed) :
    (sequence (ask (Request.malloc size)) following).run host.feed memory feed =
      (following true).run host.feed memory feed := rfl

end Running

/-! ## A session

The shortest exchange that ends in a connected client: protocol version 3.3, a
framebuffer of two by one pixels in the default format, and an empty name. -/

/-- A host whose allocators give blocks of exactly the requested size. -/
def plainHost : Host where
  block clock := clock
  screen clock framebuffer := ⟨clock, List.replicate framebuffer.dataSize 0⟩
  enough clock framebuffer := by simp
  socket := 3
  valid := by decide

/-- The answers of the plain host are allowed ones: it hands out what was asked for. -/
theorem plainHost_allowed (request : Request) (feed : Feed) (answer : Answer request)
    (later : Feed) (answered : plainHost.feed request feed = (some answer, later)) :
    Allowed request answer :=
  (plainHost.feed_provisioned request feed answer later answered).1

/-- What the server sends before and after ClientInit. -/
def plainGreeting : List UInt8 :=
  versionString .v33 ++ writeU32 1 ++ (writeU16 2 ++ writeU16 1 ++ PixelFormat.initDefault.toWire ++
    writeU32 0)

/-- The client before it connects. -/
def plainClient (callbacks : ClientCallbacks) : Client :=
  freshClient "localhost" { host := some "localhost" } callbacks

/-- What `ovnc_client_connect` leaves. -/
def plainConnected (callbacks : ClientCallbacks) : Outcome Error Fault Unit × Memory × Feed :=
  (clientConnect .bits64).run plainHost.feed ⟨plainClient callbacks, 0, 0⟩
    { unread := plainGreeting }

/-- On the plain host the example's connect succeeds. -/
theorem plainConnected_returned : (plainConnected {}).1 = .returned () ∧
    (plainConnected {}).2.1.client.state = .connected := by decide

/-- The process after the session's connect, in every environment that may answer as the host
does. -/
theorem plainConnected_reaches_within {may : (request : Request) → Answer request → Prop}
    (admits : ∀ request feed answer later, plainHost.feed request feed = (some answer, later) →
      may request answer)
    {callbacks : ClientCallbacks} (returned : (plainConnected callbacks).1 = .returned ()) :
    ∃ history, Process.Reaches .bits64 may history
      ⟨[some (plainConnected callbacks).2.1.client],
        (plainConnected callbacks).2.1.platformInitCount⟩ := by
  obtain ⟨events, execution⟩ : ∃ events, Execution may (clientConnect .bits64)
      ⟨plainClient callbacks, 0, 0⟩ events (plainConnected callbacks).1
      (plainConnected callbacks).2.1 := ⟨_, run_execution plainHost.feed may admits _ _ _⟩
  have created : Process.Transition .bits64 may Process.initial .created
      ⟨[some (plainClient callbacks)], 0⟩ :=
    .create { host := some "localhost" } (some callbacks) true true true true rfl
  have performed : Execution may (perform .bits64 0 .connect) ⟨plainClient callbacks, 0, 0⟩ events
      (.returned ()) (plainConnected callbacks).2.1 := returned ▸ execution
  have called : Process.Transition .bits64 may ⟨[some (plainClient callbacks)], 0⟩
      (.called 0 .connect events (.ok ())) _ := .returned rfl performed
  exact ⟨_, (Run.nil.snoc created).snoc called⟩

/-- The process after the session's connect, in every kind of environment of which a
provisioned one is a special case. -/
theorem plainConnected_reaches {may : (request : Request) → Answer request → Prop}
    (admits : ∀ request answer, Provisioned request answer → may request answer)
    {callbacks : ClientCallbacks} (returned : (plainConnected callbacks).1 = .returned ()) :
    ∃ history, Process.Reaches .bits64 may history
      ⟨[some (plainConnected callbacks).2.1.client],
        (plainConnected callbacks).2.1.platformInitCount⟩ :=
  plainConnected_reaches_within (fun request feed answer later answered =>
    admits _ _ (plainHost.feed_provisioned request feed answer later answered)) returned

/-- A process with a connected client can be reached. -/
theorem connected_reachable {may : (request : Request) → Answer request → Prop}
    (admits : ∀ request answer, Provisioned request answer → may request answer) :
    ∃ history process client, Process.Reaches .bits64 may history process ∧
      process.client? 0 = some client ∧ client.state = .connected := by
  obtain ⟨history, reached⟩ := plainConnected_reaches admits plainConnected_returned.1
  exact ⟨history, _, _, reached, rfl, plainConnected_returned.2⟩

end OpenVnc
