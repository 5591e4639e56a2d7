import OpenVnc.Ownership
import OpenVnc.Feed

/-!
# The ledger of a client's storage

Over a whole run of the process, the blocks that the calls on one client have obtained and not
released are those its framebuffer refers to, at most one, and none is released that is not
out. This holds as long as no connect asks for a block on a client that has one: a connect that
fails after `do_initialization` leaves the block behind, and the next one overwrites the
pointer to it.
-/

namespace OpenVnc

open Interaction Interaction.Program

namespace Process

/-- The entries that a step makes in the ledger of one client. -/
def Action.storage (handle : Nat) : Action → List (Entry Nat)
  | .created => []
  | .called other _ events _ => if other = handle then events.flatMap storageEntries else []
  | .destroyed other events => if other = handle then events.flatMap storageEntries else []

/-- The ledger of one client. -/
def ledger (handle : Nat) (history : List Action) : List (Entry Nat) :=
  history.flatMap (Action.storage handle)

/-- The blocks that the client behind a handle refers to; a destroyed client refers to none. -/
def blocks (process : Process) (handle : Nat) : List Nat :=
  match process.client? handle with
  | none => []
  | some client => client.blocks

/-- What keeps the ledger in order: a connect on a client that has a block fails before it
asks for one. -/
def Spares (handle : Nat) (before : Process) : Action → Prop
  | .called other .connect events _ =>
      other = handle → before.blocks handle = [] ∨
        ∀ event ∈ events, ∀ size, event.request ≠ .calloc size
  | _ => True

/-- A step of the process that does so. -/
structure SparingStep (word : WordSize) (handle : Nat) (before : Process) (action : Action)
    (after : Process) : Prop where
  taken : Transition word Allowed before action after
  spares : Spares handle before action

/-- The ledger of a client is in order. -/
structure InOrder (handle : Nat) (history : List Action) (process : Process) : Prop where
  balanced : balance [] (ledger handle history) = some (process.blocks handle)
  owned : ∀ client, process.client? handle = some client →
    client.callbacks.allocFramebuffer = false
  known : handle < process.clients.length

section Steps

variable {word : WordSize} {handle : Nat} {history : List Action} {before after : Process}

/-- A client refers to at most one block. -/
theorem blocks_length (process : Process) (handle : Nat) : (process.blocks handle).length ≤ 1 := by
  unfold blocks
  split
  · exact Nat.zero_le 1
  · next client _ =>
    unfold Client.blocks
    cases client.framebuffer.data <;> simp

/-- The blocks of a live client are those its framebuffer refers to. -/
theorem blocks_of_client? {process : Process} {client : Client}
    (live : process.client? handle = some client) : process.blocks handle = client.blocks := by
  unfold blocks
  rw [live]

/-- A step that makes entries for what it does to the client's blocks. -/
theorem InOrder.snoc (order : InOrder handle history before) {action : Action}
    (moved : balance (before.blocks handle) (action.storage handle) = some (after.blocks handle))
    (owned : ∀ client, after.client? handle = some client →
      client.callbacks.allocFramebuffer = false)
    (known : before.clients.length ≤ after.clients.length) :
    InOrder handle (history ++ [action]) after := by
  constructor
  case balanced =>
    unfold ledger
    rw [List.flatMap_append, balance_append]
    have earlier := order.balanced
    unfold ledger at earlier
    rw [earlier]
    simpa using moved
  case owned => exact owned
  case known => exact Nat.lt_of_lt_of_le order.known known

/-- A step on another client, or none. -/
theorem InOrder.other (order : InOrder handle history before) {action : Action}
    (silent : action.storage handle = [])
    (same : after.client? handle = before.client? handle)
    (known : before.clients.length ≤ after.clients.length) :
    InOrder handle (history ++ [action]) after := by
  apply order.snoc _ _ known
  · unfold blocks
    rw [silent, same]
    rfl
  · rw [same]
    exact order.owned

/-- A completed call on the client. -/
theorem InOrder.called (order : InOrder handle history before) {bound : Nat} {client : Client}
    {call : ApiCall} {events : List Step} {result : Except Error Unit} {final : Memory}
    (live : before.client? handle = some client)
    (spares : Spares handle before (.called handle call events result))
    (performed : Execution Allowed (perform word bound call) (before.memoryOf client) events
      (Outcome.finished result) final) :
    InOrder handle (history ++ [.called handle call events result])
      ⟨before.clients.set handle (some final.client), final.platformInitCount⟩ := by
  have own : OwnsStorage (before.memoryOf client) := order.owned client live
  have after_live : (Process.mk (before.clients.set handle (some final.client))
      final.platformInitCount).client? handle = some final.client := by
    rw [client?_set _ _ before.platformInitCount, if_pos ⟨rfl, order.known⟩]
  have spared : call = .connect → Spared (before.memoryOf client) events := by
    rintro rfl
    have care := spares rfl
    rwa [blocks_of_client? live] at care
  have accounted : balance client.blocks (events.flatMap storageEntries) =
      some final.client.blocks ∧ OwnsStorage final := by
    have ended := (wp_iff _ _ _).mp (perform_accounted word bound call own) _ _ _ performed spared
    cases result with
    | ok | error => exact ended
  apply order.snoc
  · rw [blocks_of_client? live, blocks_of_client? after_live]
    simp only [Action.storage, if_true]
    exact accounted.1
  · intro other found
    rw [after_live] at found
    obtain rfl := Option.some.inj found
    exact accounted.2
  · simp

/-- The client is destroyed. -/
theorem InOrder.destroyed (order : InOrder handle history before) {client : Client}
    {events : List Step} {final : Memory} (live : before.client? handle = some client)
    (performed : Execution Allowed clientDestroy (before.memoryOf client) events (.returned ())
      final) :
    InOrder handle (history ++ [.destroyed handle events])
      ⟨before.clients.set handle none, final.platformInitCount⟩ := by
  have own : OwnsStorage (before.memoryOf client) := order.owned client live
  have gone : (Process.mk (before.clients.set handle none)
      final.platformInitCount).client? handle = none := by
    rw [client?_set _ _ before.platformInitCount, if_pos ⟨rfl, order.known⟩]
  have settled := (wp_iff _ _ _).mp (clientDestroy_settles own) _ _ _ performed rfl
  apply order.snoc
  · unfold blocks
    rw [live, gone]
    simp only [Action.storage, if_true]
    exact settled
  · intro other found
    rw [gone] at found
    cases found
  · simp

/-- What one step preserves. -/
theorem InOrder.step {action : Action} (order : InOrder handle history before)
    (step : SparingStep word handle before action after) :
    InOrder handle (history ++ [action]) after := by
  have replaced {other : Nat} (different : other ≠ handle) (slot : Option Client) (count : Int) :
      (Process.mk (before.clients.set other slot) count).client? handle =
        before.client? handle := by
    rw [client?_set _ _ before.platformInitCount, if_neg (fun same => different same.1)]
  obtain ⟨taken, spares⟩ := step
  cases taken with
  | create config callbacks record host pixelFormat encodings made =>
    apply order.other
    · rfl
    · rw [client?_append, if_neg (Nat.ne_of_lt order.known)]
    · simp
  | @returned other client call bound events final live performed =>
    by_cases same : other = handle
    · subst same
      exact order.called live spares performed
    · exact order.other (if_neg same) (replaced same _ _) (by simp)
  | @failed other client call bound events final error live performed =>
    by_cases same : other = handle
    · subst same
      exact order.called live spares performed
    · exact order.other (if_neg same) (replaced same _ _) (by simp)
  | @destroy other client events final live performed =>
    by_cases same : other = handle
    · subst same
      exact order.destroyed live performed
    · exact order.other (if_neg same) (replaced same _ _) (by simp)

end Steps

end Process

/-- From the creation of a client without an allocator on: whatever calls are made, and
whatever the servers and the system do, its ledger is in order after every step of a run in
which no connect asks for a block on a client that has one. -/
theorem framebuffer_ledger {word : WordSize} {handle : Nat} {start process : Process}
    {history : List Process.Action} {host : String} {config : ClientConfig}
    {callbacks : ClientCallbacks} (own : callbacks.allocFramebuffer = false)
    (created : start.client? handle = some (freshClient host config callbacks))
    (run : Run (Process.SparingStep word handle) start history process) :
    balance [] (Process.ledger handle history) = some (process.blocks handle) ∧
      (process.blocks handle).length ≤ 1 := by
  have initially : Process.InOrder handle [] start := by
    constructor
    case balanced =>
      rw [Process.blocks_of_client? created]
      rfl
    case owned =>
      intro client live
      rw [created] at live
      obtain rfl := Option.some.inj live
      exact own
    case known => exact Process.client?_lt created
  have order := run.invariant (Process.InOrder handle) initially
    (fun _ _ _ _ order step => order.step step)
  exact ⟨order.balanced, Process.blocks_length process handle⟩

/-! ## A connect that is retried -/

/-- A process whose only client is this one. -/
def sole (client : Client) : Process := ⟨[some client], 0⟩

/-- What connecting the only client comes to. -/
def connectEnd (handler : Handler Request Answer Feed) (client : Client) (feed : Feed) :
    Outcome Error Fault Unit × Memory × Feed :=
  (clientConnect .bits64).run handler ((sole client).memoryOf client) feed

/-- The step of the process that this is. -/
def connectStep (handler : Handler Request Answer Feed) (client : Client) (feed : Feed)
    (result : Except Error Unit) : Process.Action :=
  .called 0 .connect
    ((clientConnect .bits64).trace handler ((sole client).memoryOf client) feed) result

/-- A connect that comes to a result is a step of the process with this one client. -/
theorem sole_connects {handler : Handler Request Answer Feed}
    (within : handler.Within Allowed) {client : Client} {feed : Feed} {result : Except Error Unit}
    (ended : (connectEnd handler client feed).1 = Outcome.finished result) :
    Process.Transition .bits64 Allowed (sole client) (connectStep handler client feed result)
      ⟨[some (connectEnd handler client feed).2.1.client],
        (connectEnd handler client feed).2.1.platformInitCount⟩ := by
  have executed := run_execution handler Allowed within (clientConnect .bits64)
    ((sole client).memoryOf client) feed
  change Execution _ _ _ _ (connectEnd handler client feed).1 _ at executed
  rw [ended] at executed
  have performed : Execution Allowed (perform .bits64 0 .connect) _ _ _ _ := executed
  cases result with
  | ok => exact .returned rfl performed
  | error error => exact .failed rfl performed

/-- A client that asks for a pixel format of its own. -/
def formatClient : Client :=
  freshClient "localhost" { host := some "localhost", pixelFormat := some .initDefault } {}

/-- One connect, and the block it obtains. -/
theorem framebuffer_ledger_connected : ∃ history process,
    Run (Process.SparingStep .bits64 0) (sole formatClient) history process ∧
      balance [] (Process.ledger 0 history) = some (process.blocks 0) ∧
      process.blocks 0 = [0] := by
  have step := @sole_connects plainHost.feed plainHost_allowed formatClient
    { unread := plainGreeting } (.ok ()) (by decide)
  have spares : Process.Spares 0 (sole formatClient)
      (connectStep plainHost.feed formatClient { unread := plainGreeting } (.ok ())) :=
    fun _ => .inl rfl
  have run := Run.nil.snoc (Process.SparingStep.mk step spares)
  exact ⟨_, _, run, (framebuffer_ledger rfl rfl run).1, by decide⟩

/-- A host that loses the connection when the client sends its pixel format. -/
def droppedHost : Handler Request Answer Feed
  | .send data, feed =>
      if data.length = 20 then (some (SendAnswer.stopped 0 .io), feed)
      else plainHost.feed (.send data) feed
  | request, feed => plainHost.feed request feed

/-- The answers of the example's host are allowed ones. -/
theorem droppedHost_allowed (request : Request) (feed : Feed) (answer : Answer request)
    (later : Feed) (answered : droppedHost request feed = (some answer, later)) :
    Allowed request answer := by
  cases request with
  | send data =>
    simp only [droppedHost] at answered
    split at answered
    · next size =>
      cases answered
      exact ⟨by omega, .inl rfl⟩
    · exact plainHost_allowed _ feed answer later answered
  | _ => exact plainHost_allowed _ feed answer later answered

/-- The client after the lost connection. -/
def droppedClient : Client :=
  (connectEnd droppedHost formatClient { unread := plainGreeting }).2.1.client

/-- A connect that fails after the framebuffer has been set up, and one that succeeds: two
blocks are out. -/
theorem connect_retried_leaks : ¬ ∀ history process,
    Run (Process.Transition .bits64 Allowed) (sole formatClient) history process →
      balance [] (Process.ledger 0 history) = some (process.blocks 0) ∧
        (process.blocks 0).length ≤ 1 := by
  intro order
  have lost := @sole_connects droppedHost droppedHost_allowed formatClient
    { unread := plainGreeting } (.error .io) (by decide)
  have count : (connectEnd droppedHost formatClient
      { unread := plainGreeting }).2.1.platformInitCount = 0 := by decide
  rw [count] at lost
  have retried := @sole_connects plainHost.feed plainHost_allowed droppedClient
    { unread := plainGreeting, clock := 1 } (.ok ()) (by decide)
  have balanced := (order _ _ ((Run.nil.snoc lost).snoc retried)).1
  revert balanced
  decide

end OpenVnc
