import OpenVnc.Calls
import OpenVnc.Feed

/-!
# The life of clients and the count they share

Over every run of a process, with any number of clients and any interleaving of
calls on them: a client moves from created to connected to disconnected, has a
transport exactly while it is connected, and is counted by the platform layer
exactly then. A call on a client that is not connected does nothing, a failed
connection attempt leaves nothing behind, and the `disconnected` callback runs at
most once for each client, for the call that failed to process a message.

The results allow an application that disconnects in its callbacks; an application
that does not re-enter the library is a special case.
-/

namespace OpenVnc

open Interaction Interaction.Program

/-- A client has a transport exactly while it is connected. This holds between calls; within a
call the two may differ for a moment. -/
def Client.Linked (client : Client) : Prop := client.transport.isSome ↔ client.state = .connected

/-- One for a connected client, zero for any other. The count of initializations is the sum of
these. -/
def Client.share (client : Client) : Nat := if client.state = .connected then 1 else 0

/-- The steps of a client's life. A client that fails to connect stays as created. -/
inductive Moves : ClientState → ClientState → Prop where
  | stays (state : ClientState) : Moves state state
  | connects : Moves .created .connected
  | disconnects : Moves .connected .disconnected

/-- A disconnected client stays so. The last state is final. -/
theorem Moves.of_disconnected {state : ClientState} (moves : Moves .disconnected state) :
    state = .disconnected := by
  cases moves
  rfl

/-- No client is created twice. A connection that was made is never forgotten. -/
theorem Moves.of_created {state : ClientState} (moves : Moves state .created) :
    state = .created := by
  cases moves
  rfl

/-- What the `disconnected` callback has to be told after a call: the error of a call
that failed to process a message, if the application asked for it. -/
def toldBy (call : ApiCall) (client : Client) : Except Error Unit → List Error
  | .ok () => []
  | .error error =>
      if call.receives ∧ client.state = .connected ∧ client.callbacks.disconnected then [error]
      else []

/-- A call tells of at most one disconnection. -/
theorem toldBy_length (call : ApiCall) (client : Client) (result : Except Error Unit) :
    (toldBy call client result).length ≤ 1 := by
  rcases result with error | ⟨⟨⟩⟩
  · by_cases reported : call.receives ∧ client.state = .connected ∧ client.callbacks.disconnected
    · simp [toldBy, reported]
    · simp [toldBy, reported]
  · exact Nat.zero_le 1

/-! ## One call -/

/-- What a completed call does to the client and the count. It is stated for the memory of the
call, in which the count is that of the whole process. -/
structure CallSound (call : ApiCall) (before : Memory) (events : List Step)
    (result : Except Error Unit) (after : Memory) : Prop where
  moves : Moves before.client.state after.client.state
  linked : after.client.Linked
  counted : after.platformInitCount + before.client.share =
    before.platformInitCount + after.client.share
  idle : call ≠ .connect → before.client.state ≠ .connected → events = []
  refused : call = .connect → ∀ error, result = .error error →
    after.client.state = before.client.state ∧ after.platformInitCount = before.platformInitCount
  told : reasons events = toldBy call before.client result
  settled : reasons events ≠ [] → before.client.state = .connected ∧
    after.client.state = .disconnected

section Calls

variable {before after : Memory} {events : List Step} {result : Except Error Unit}
  {call : ApiCall}

/-- A call on a client that is not connected tells of none. -/
theorem toldBy_idle (idle : before.client.state ≠ .connected) :
    toldBy call before.client result = [] := by
  rcases result with error | ⟨⟨⟩⟩ <;> simp [toldBy, idle]

/-- A call that changes nothing standing. A refused call is one of these. -/
theorem callSound_of_standing (same : after.standing = before.standing)
    (linked : before.client.Linked) (told : reasons events = toldBy call before.client result)
    (untold : reasons events = [])
    (idle : call ≠ .connect → before.client.state ≠ .connected → events = []) :
    CallSound call before events result after := by
  have state : after.client.state = before.client.state := congrArg Standing.state same
  have count : after.platformInitCount = before.platformInitCount :=
    congrArg Standing.platformInitCount same
  have transport : after.client.transport = before.client.transport :=
    congrArg Standing.transport same
  refine ⟨?_, ?_, ?_, idle, fun _ _ _ => ⟨state, count⟩, told, fun some => absurd untold some⟩
  · rw [state]
    exact .stays _
  · rw [Client.Linked, transport, state]
    exact linked
  · rw [count, Client.share, Client.share, state]

/-- A call after which a connected client is hung up. It gives its share of the count back,
once. -/
theorem callSound_of_hungUp (connected : before.client.state = .connected)
    (counted : 0 < before.platformInitCount) (hung : after.standing = before.hungUp.standing)
    (other : call ≠ .connect) (told : reasons events = toldBy call before.client result) :
    CallSound call before events result after := by
  have shape : before.hungUp = { before with
      client := { before.client with transport := none, state := .disconnected }
      platformInitCount := before.platformInitCount - 1 } := by
    simp [Memory.hungUp, connected, counted]
  have state : after.client.state = .disconnected :=
    (congrArg Standing.state hung).trans (by rw [shape]; rfl)
  have transport : after.client.transport = none :=
    (congrArg Standing.transport hung).trans (by rw [shape]; rfl)
  have count : after.platformInitCount = before.platformInitCount - 1 :=
    (congrArg Standing.platformInitCount hung).trans (by rw [shape]; rfl)
  refine ⟨?_, ?_, ?_, fun _ idle => absurd connected idle,
    fun impossible => absurd impossible other,
    told, fun _ => ⟨connected, state⟩⟩
  · rw [connected, state]
    exact .disconnects
  · simp [Client.Linked, transport, state]
  · simp [Client.share, count, state, connected]

end Calls

/-- `ovnc_client_connect`: a client that is connected has a transport and its share of the count,
and one that is not has neither. -/
theorem clientConnect_sound (word : WordSize) {before after : Memory} {events : List Step}
    {result : Except Error Unit} (linked : before.client.Linked)
    (counted : (before.client.share : Int) ≤ before.platformInitCount)
    (performed : Execution Allowed (clientConnect word) before events (Outcome.finished result)
      after) : CallSound .connect before events result after := by
  by_cases created : before.client.state = .created
  · have detached : before.client.transport = none := by
      apply Option.not_isSome_iff_eq_none.mp
      intro attached
      exact absurd (created.symm.trans (linked.mp attached)) (by decide)
    have positive : 0 ≤ before.platformInitCount := by
      simpa [Client.share, created] using counted
    have ended : ConnectEnded before events (Outcome.finished result) after :=
      (wp_iff _ _ _).mp (clientConnect_ends word created detached positive) _ _ _ performed
    have untold : reasons events = [] := (unseen_of_silent ended.silent).1
    rcases result with error | ⟨⟨⟩⟩
    · exact callSound_of_standing (ended.failed error rfl) linked
        (untold.trans (toldBy_idle (by simp [created])).symm) untold
        (fun impossible => absurd rfl impossible)
    · obtain ⟨transport, standing⟩ := ended.returned rfl
      have state : after.client.state = .connected := congrArg Standing.state standing
      have attached : after.client.transport = some transport :=
        congrArg Standing.transport standing
      have count : after.platformInitCount = before.platformInitCount + 1 :=
        congrArg Standing.platformInitCount standing
      constructor
      case moves => rw [created, state]; exact .connects
      case linked => simp [Client.Linked, attached, state]
      case counted => simp [Client.share, count, created, state]
      case idle => exact fun impossible => absurd rfl impossible
      case refused => exact fun _ _ => nofun
      case told => exact untold
      case settled => exact fun told => absurd untold told
  · obtain ⟨rfl, -, rfl⟩ := (wp_iff _ _ _).mp (clientConnect_refused word created) _ _ _ performed
    have untold : toldBy .connect after.client result = [] := by
      rcases result with error | ⟨⟨⟩⟩ <;> simp [toldBy, ApiCall.receives]
    exact callSound_of_standing rfl linked untold.symm rfl (fun _ _ => rfl)

/-- Every completed call, on a client in any state. The state decides which of the calls can
succeed at all. -/
theorem perform_sound (word : WordSize) (bound : Nat) (call : ApiCall) {before after : Memory}
    {events : List Step} {result : Except Error Unit} (linked : before.client.Linked)
    (counted : (before.client.share : Int) ≤ before.platformInitCount)
    (performed : Execution Allowed (perform word bound call) before events
      (Outcome.finished result) after) : CallSound call before events result after := by
  by_cases other : call = .connect
  · subst other
    exact clientConnect_sound word linked counted performed
  by_cases connected : before.client.state = .connected
  · obtain ⟨transport, attached⟩ := Option.isSome_iff_exists.mp (linked.mpr connected)
    have ended : Performed call before events (Outcome.finished result) after :=
      (wp_iff _ _ _).mp (perform_connected word bound other attached connected) _ _ _ performed
    have positive : 0 < before.platformInitCount := by
      simp only [Client.share, connected, if_true] at counted
      omega
    have idle : call ≠ .connect → before.client.state ≠ .connected → events = [] :=
      fun _ unconnected => absurd connected unconnected
    rcases result with error | ⟨⟨⟩⟩
    · obtain ⟨receiving, sending⟩ := ended.failed error rfl
      cases receives : call.receives with
      | true =>
        obtain ⟨told, hung⟩ := receiving receives
        apply callSound_of_hungUp connected positive hung other
        simpa [toldBy, receives, connected] using told
      | false =>
        obtain ⟨told, same⟩ := sending receives
        exact callSound_of_standing same linked (told.trans (by simp [toldBy, receives])) told idle
    · obtain ⟨told, ⟨-, -, same⟩ | ⟨-, hung⟩⟩ := ended.returned rfl
      · exact callSound_of_standing same linked told told idle
      · exact callSound_of_hungUp connected positive hung other told
  · have nothing : (perform word bound call).wp Allowed (fun events _ final =>
        events = [] ∧ final = before) before :=
      perform_unconnected word bound other connected (fun _ => ⟨rfl, rfl⟩) (fun _ => ⟨rfl, rfl⟩)
    obtain ⟨rfl, rfl⟩ := (wp_iff _ _ _).mp nothing _ _ _ performed
    exact callSound_of_standing rfl linked (toldBy_idle connected).symm rfl (fun _ _ => rfl)

/-! ## The message behind a report -/

/-- Among the events are those of a message that `ovnc__recv_server_message` failed to
process, with this error. -/
def Undecoded (word : WordSize) (events : List Step) (error : Error) : Prop :=
  ∃ earlier decoded later start stopped, events = earlier ++ decoded ++ later ∧
    Execution Allowed (recvServerMessage word) start decoded (.failed error) stopped

/-- The calls that process messages fail because a message did. -/
def FailsUndecoded (word : WordSize) (events : List Step) (outcome : Outcome Error Fault Unit)
    (_ : Memory) : Prop := ∀ error, outcome = .failed error → Undecoded word events error

/-- A message is processed, and what follows tears down after an error. -/
theorem attempt_failsUndecoded (word : WordSize) {following : Except Error Unit → Routine Unit}
    (continues : ∀ middle, (following (.ok ())).wp Allowed (FailsUndecoded word) middle)
    (tears : ∀ error, following (.error error) = tearDown error) (memory : Memory) :
    (sequence (attempt (recvServerMessage word)) following).wp Allowed (FailsUndecoded word)
      memory := by
  refine wp_after_attempt (wp_executes (recvServerMessage word) memory) ?_ ?_
    (fun _ _ _ _ _ => nofun) (fun _ _ _ _ => nofun)
  · intro events value middle _
    apply wp_mono (continues middle)
    intro later outcome final undecoded error failed
    obtain ⟨earlier, decoded, rest, start, stopped, rfl, execution⟩ := undecoded error failed
    exact ⟨events ++ earlier, decoded, rest, start, stopped, by simp, execution⟩
  · intro events error middle execution
    rw [tears error]
    apply wp_mono (tearDown_ends error middle)
    rintro later outcome final ⟨-, rfl | ⟨rfl, -⟩⟩ reason failed
    · exact absurd failed nofun
    · obtain rfl : error = reason := by simpa using failed
      exact ⟨[], events, later, memory, middle, rfl, execution⟩

/-- The loop of `ovnc_client_run` fails before it decodes anything, or has decoded all it has
taken. The induction is on its bound. -/
theorem runLoop_failsUndecoded (word : WordSize) (bound : Nat) (memory : Memory) :
    (runLoop word bound).wp Allowed (FailsUndecoded word) memory := by
  induction bound generalizing memory with
  | zero => exact fun error failed => absurd failed (by simp)
  | succ bound inductionHypothesis =>
    rw [runLoop, bind_eq, wp_sequence, wp_load, continuing_returned]
    split
    · exact attempt_failsUndecoded word inductionHypothesis (fun _ => rfl) memory
    · exact fun error failed => absurd failed (by simp)

/-- A failed call that processes messages on a connected client. No other step of such a call
returns an error. -/
theorem perform_undecoded (word : WordSize) (bound : Nat) {call : ApiCall} {before after : Memory}
    {events : List Step} {error : Error} (receives : call.receives = true)
    (connected : before.client.state = .connected)
    (performed : Execution Allowed (perform word bound call) before events (.failed error) after) :
    Undecoded word events error := by
  have fails : (perform word bound call).wp Allowed (FailsUndecoded word) before := by
    cases call with
    | processMessage =>
      rw [perform, clientProcessMessage, bind_eq, wp_sequence, wp_requireConnected]
      refine ⟨fun idle => absurd connected idle, fun _ => ?_⟩
      apply attempt_failsUndecoded word _ (fun _ => rfl) before
      exact fun middle error failed => absurd failed (by simp)
    | run =>
      rw [perform, clientRun, bind_eq, wp_sequence, wp_requireConnected]
      exact ⟨fun idle => absurd connected idle, fun _ => runLoop_failsUndecoded word bound before⟩
    | _ => cases receives
  exact (wp_iff _ _ _).mp fails _ _ _ performed error rfl

/-! ## Destroying a client -/

/-- Whether a request is an operation on a connection. The heap and the application are not
concerned. -/
def Request.isTransport : Request → Bool
  | .recv _ | .send _ | .socketConnect .. | .socketClose _ => true
  | _ => false

/-- The end of `ovnc_client_destroy`: no report, and the client hung up if it was
connected. On a client that was not, only the framebuffer is released. -/
structure Destroyed (memory : Memory) (events : List Step) (outcome : Outcome Error Fault Unit)
    (final : Memory) : Prop where
  untold : reasons events = []
  unsent : ∀ event ∈ events, event.request.isSend = false
  idle : memory.client.state ≠ .connected → ∀ event ∈ events, event.request.isTransport = false
  ended : outcome = .waiting ∨ outcome = .returned () ∧ final.standing = memory.hungUp.standing

/-- The release of the framebuffer after the disconnection. -/
theorem release_destroyed {memory middle : Memory} {events : List Step}
    (closes : Closes events) (idle : memory.client.state ≠ .connected → events = [])
    (standing : middle.standing = memory.hungUp.standing) :
    (load >>= fun memory => onlyIf (memory.client.callbacks.allocFramebuffer = false)
      (freePixels memory.client.framebuffer.data)).wp Allowed
      (fun later => Destroyed memory (events ++ later)) middle := by
  have releases {later : List Step} {outcome : Outcome Error Fault Unit}
      (frees : ∀ event ∈ later, ∃ block, event.request = .free block)
      (ended : outcome = .waiting ∨ outcome = .returned ()) :
      Destroyed memory (events ++ later) outcome middle := by
    constructor
    case untold =>
      rw [reasons_append, closes.unseen.1, List.nil_append]
      apply List.filterMap_eq_nil_iff.mpr
      intro event member
      obtain ⟨block, freed⟩ := frees event member
      rw [freed]
    case unsent =>
      intro event member
      rcases List.mem_append.mp member with closing | freeing
      · exact closes.unsent event closing
      · obtain ⟨block, freed⟩ := frees event freeing
        rw [freed]
        rfl
    case idle =>
      intro unconnected event member
      rw [idle unconnected, List.nil_append] at member
      obtain ⟨block, freed⟩ := frees event member
      rw [freed]
      rfl
    case ended => exact ended.imp_right (fun returned => ⟨returned, standing⟩)
  rw [bind_eq, wp_sequence, wp_load, continuing_returned, wp_onlyIf]
  constructor
  · intro owned
    apply wp_freePixels
    · exact releases (by simp) (.inl rfl)
    · exact fun _ => releases (by simp) (.inr rfl)
    · exact fun block _ => releases (by simp) (.inr rfl)
  · exact fun _ => releases (by simp) (.inr rfl)

/-- `ovnc_client_destroy` ends with the client's share of the count given back. -/
theorem clientDestroy_ends (memory : Memory) :
    clientDestroy.wp Allowed (Destroyed memory) memory := by
  rw [clientDestroy, bind_eq, wp_sequence]
  by_cases connected : memory.client.state = .connected
  · apply wp_mono (clientDisconnect_hangsUp memory)
    rintro events outcome final ⟨closes, ended⟩
    have closing : Closes events := fun event member => (closes event member).2
    rcases ended with ⟨rfl, -⟩ | ⟨rfl, rfl⟩
    · exact ⟨closing.unseen.1, closing.unsent, fun idle => absurd connected idle, .inl rfl⟩
    · exact release_destroyed closing (fun idle => absurd connected idle) rfl
  · rw [clientDisconnect, bind_eq, wp_sequence, wp_load, continuing_returned, wp_onlyIf]
    refine ⟨fun impossible => absurd impossible connected, fun _ => ?_⟩
    exact release_destroyed (by simp [Closes]) (fun _ => rfl) (by simp [Memory.hungUp, connected])

/-! ## The process -/

namespace Process

/-- Whether a handle refers to a live client that is connected. A destroyed client is not. -/
def slotConnected (slot : Option Client) : Bool :=
  slot.any (fun client => client.state = .connected)

/-- The number of live clients that are connected. -/
def connectedClients (process : Process) : Nat := process.clients.countP slotConnected

/-- Between two calls the connected clients have a transport, the others have none, and
the initialization count is the number of connected clients. -/
structure Sound (process : Process) : Prop where
  linked : ∀ handle client, process.client? handle = some client → client.Linked
  counted : process.platformInitCount = process.connectedClients

/-- What the `disconnected` callback of a client was told by a step. -/
def Action.told (handle : Nat) : Action → List Error
  | created => []
  | called other _ events _ => if other = handle then reasons events else []
  | destroyed other events => if other = handle then reasons events else []

/-- What the `disconnected` callback of a client was told in a history. -/
def toldTo (handle : Nat) (history : List Action) : List Error :=
  history.flatMap (Action.told handle)

/-- What one step may do, whichever client it is a call on. The others are as before. Only the
client of the call may move, and only along its life. -/
def StepSound (word : WordSize) (before : Process) (action : Action) (after : Process) : Prop :=
  match action with
  | .created => ∃ client : Client, client.state = .created ∧
      after.clients = before.clients ++ [some client]
  | .called handle call events result => ∃ client final, before.client? handle = some client ∧
      after = ⟨before.clients.set handle (some final.client), final.platformInitCount⟩ ∧
      CallSound call (before.memoryOf client) events result final ∧
      ∀ error, call.receives = true → client.state = .connected → result = .error error →
        Undecoded word events error
  | .destroyed handle events => ∃ client, before.client? handle = some client ∧
      after.clients = before.clients.set handle none ∧ reasons events = [] ∧
      (client.state ≠ .connected → ∀ event ∈ events, event.request.isTransport = false)

/-! ### The count -/

/-- A slot counts as much as the client in it. -/
theorem slotConnected_some (client : Client) :
    (if slotConnected (some client) then 1 else 0) = client.share := by
  simp [slotConnected, Client.share]

/-- Replacing one client moves the count by the difference of the two. Destroying a client is
the case in which nothing replaces it. -/
theorem countP_slot {clients : List (Option Client)} {handle : Nat} {old : Option Client}
    (present : clients[handle]? = some old) (replaced : Option Client) :
    (clients.set handle replaced).countP slotConnected +
        (if slotConnected old then 1 else 0) =
      clients.countP slotConnected + (if slotConnected replaced then 1 else 0) := by
  induction clients generalizing handle with
  | nil => simp at present
  | cons first clients inductionHypothesis =>
    cases handle with
    | zero =>
      obtain rfl : first = old := by simpa using present
      simp only [List.set_cons_zero, List.countP_cons]
      omega
    | succ handle =>
      have rest := inductionHypothesis (by simpa using present)
      simp only [List.set_cons_succ, List.countP_cons]
      omega

/-- A client that is live is in its slot. -/
theorem getElem?_of_client? {process : Process} {handle : Nat} {client : Client}
    (live : process.client? handle = some client) :
    process.clients[handle]? = some (some client) := by
  unfold client? at live
  simpa [Option.join_eq_some_iff] using live

/-- A connected client is among those counted. -/
theorem share_le {process : Process} {handle : Nat} {client : Client}
    (live : process.client? handle = some client) :
    client.share ≤ process.connectedClients := by
  have moved := countP_slot (getElem?_of_client? live) none
  rw [slotConnected_some] at moved
  have none_adds : (if slotConnected none then 1 else 0) = 0 := rfl
  rw [none_adds] at moved
  unfold connectedClients
  omega

/-! ### Steps -/

/-- A completed call, on whichever client. The share of the client and the count change alike.
-/
theorem Sound.called {word : WordSize} {bound : Nat} {process : Process} {handle : Nat}
    {client : Client} {call : ApiCall} {events : List Step} {result : Except Error Unit}
    {final : Memory} (sound : process.Sound) (live : process.client? handle = some client)
    (performed : Execution Allowed (perform word bound call) (process.memoryOf client) events
      (Outcome.finished result) final) :
    Sound ⟨process.clients.set handle (some final.client), final.platformInitCount⟩ ∧
      StepSound word process (.called handle call events result)
        ⟨process.clients.set handle (some final.client), final.platformInitCount⟩ := by
  have covered : (client.share : Int) ≤ process.platformInitCount := by
    rw [sound.counted]
    exact_mod_cast share_le live
  have called : CallSound call (process.memoryOf client) events result final :=
    perform_sound word bound call (sound.linked handle client live) covered performed
  constructor
  · constructor
    case linked =>
      intro other survivor survives
      rw [client?_set _ _ process.platformInitCount] at survives
      split at survives
      · rw [← Option.some.inj survives]
        exact called.linked
      · exact sound.linked other survivor survives
    case counted =>
      have moved := countP_slot (getElem?_of_client? live) (some final.client)
      rw [slotConnected_some, slotConnected_some] at moved
      have count : final.platformInitCount + client.share =
          process.platformInitCount + final.client.share := called.counted
      have before : process.platformInitCount = process.clients.countP slotConnected :=
        sound.counted
      change final.platformInitCount =
        ((process.clients.set handle (some final.client)).countP slotConnected : Nat)
      omega
  · refine ⟨client, final, live, rfl, called, fun error receives connected failed => ?_⟩
    subst failed
    exact perform_undecoded word bound receives connected performed

/-- Destroying a client leaves the process sound: its share of the count is gone with it. -/
theorem Sound.destroyed {process : Process} {handle : Nat} {client : Client}
    {events : List Step} {final : Memory} (sound : process.Sound)
    (live : process.client? handle = some client)
    (ended : Destroyed (process.memoryOf client) events (.returned ()) final) :
    Sound ⟨process.clients.set handle none, final.platformInitCount⟩ := by
  have standing : final.standing = (process.memoryOf client).hungUp.standing :=
    (ended.ended.resolve_left nofun).2
  constructor
  case linked =>
    intro other survivor survives
    rw [client?_set _ _ process.platformInitCount] at survives
    split at survives
    · exact absurd survives (by simp)
    · exact sound.linked other survivor survives
  case counted =>
    have moved := countP_slot (getElem?_of_client? live) none
    have none_adds : (if slotConnected none then 1 else 0) = 0 := rfl
    rw [slotConnected_some, none_adds] at moved
    have before : process.platformInitCount = process.clients.countP slotConnected :=
      sound.counted
    have count : final.platformInitCount = process.platformInitCount - client.share := by
      apply (congrArg Standing.platformInitCount standing).trans
      by_cases connected : client.state = .connected
      · have share : client.share = 1 := by simp [Client.share, connected]
        have positive : 0 < process.platformInitCount := by omega
        simp [Memory.standing, Memory.hungUp, memoryOf, connected, positive, share]
      · simp [Memory.standing, Memory.hungUp, memoryOf, connected, Client.share]
    change final.platformInitCount =
      ((process.clients.set handle none).countP slotConnected : Nat)
    omega

/-- Creating a client leaves it sound: a fresh client has no share. -/
theorem Sound.created {process : Process} {made : Client} (sound : process.Sound)
    (fresh : made.state = .created) (detached : made.transport = none) :
    Sound { process with clients := process.clients ++ [some made] } := by
  constructor
  case linked =>
    intro handle client live
    rw [client?_append] at live
    split at live
    · rw [← Option.some.inj live, Client.Linked, fresh, detached]
      simp
    · exact sound.linked handle client live
  case counted =>
    have before : process.platformInitCount = process.clients.countP slotConnected :=
      sound.counted
    change process.platformInitCount =
      ((process.clients ++ [some made]).countP slotConnected : Nat)
    rw [List.countP_append, before]
    simp [slotConnected, fresh]

/-- What one step preserves, and what it may do. There is one case for each kind of step. -/
theorem Sound.step {word : WordSize} {before after : Process} {action : Action}
    (sound : before.Sound) (taken : Transition word Allowed before action after) :
    after.Sound ∧ StepSound word before action after := by
  cases taken with
  | create config callbacks record host pixelFormat encodings made =>
    obtain ⟨name, fields⟩ := clientCreate_some made
    subst fields
    exact ⟨sound.created rfl rfl, _, rfl, rfl⟩
  | returned live performed => exact sound.called live performed
  | failed live performed => exact sound.called live performed
  | destroy live performed =>
    have ended := (wp_iff _ _ _).mp (clientDestroy_ends _) _ _ _ performed
    exact ⟨sound.destroyed live ended, _, live, rfl, ended.untold, ended.idle⟩

/-- At first there are no clients and the count is zero. -/
theorem sound_initial : initial.Sound := by
  refine ⟨fun handle client live => ?_, rfl⟩
  simp [initial, client?] at live

/-- Every process that is reached is sound, by induction on its history. The step's lemma is all
that is used. -/
theorem Reaches.sound {word : WordSize} {history : List Action} {process : Process}
    (reached : Reaches word Allowed history process) : process.Sound :=
  Run.state_invariant Sound sound_initial (fun _ _ _ sound taken => (sound.step taken).1) reached

/-- Under a step no handle is reused, and each client that is still live has moved on from
what it was. -/
theorem StepSound.evolves {word : WordSize} {before after : Process} {action : Action}
    (taken : StepSound word before action after) :
    before.clients.length ≤ after.clients.length ∧ ∀ handle < before.clients.length, ∀ client,
      after.client? handle = some client →
        ∃ earlier, before.client? handle = some earlier ∧ Moves earlier.state client.state := by
  cases action with
  | created =>
    obtain ⟨made, -, clients⟩ := taken
    refine ⟨by simp [clients], fun handle inside client live => ?_⟩
    have appended := client?_append before.clients after.platformInitCount made handle
    rw [← clients, if_neg (Nat.ne_of_lt inside)] at appended
    exact ⟨client, appended.symm.trans live, .stays _⟩
  | called other call events result =>
    obtain ⟨earlier, final, lived, rfl, sound, -⟩ := taken
    refine ⟨by simp, fun handle inside client live => ?_⟩
    rw [client?_set _ _ before.platformInitCount] at live
    split at live
    · next same =>
      obtain ⟨rfl, -⟩ := same
      obtain rfl := Option.some.inj live
      exact ⟨earlier, lived, sound.moves⟩
    · exact ⟨client, live, .stays _⟩
  | destroyed other events =>
    obtain ⟨earlier, lived, clients, -⟩ := taken
    refine ⟨by simp [clients], fun handle inside client live => ?_⟩
    have remaining := client?_set before.clients after.platformInitCount
      before.platformInitCount other handle none
    rw [← clients, live] at remaining
    split at remaining
    · exact absurd remaining (by simp)
    · exact ⟨client, remaining.symm, .stays _⟩

/-! ### Reports -/

/-- A client that was told anything was told once and has been disconnected since. Nothing is
said of a client that was told nothing. -/
def OverAfterReport (history : List Action) (process : Process) (handle : Nat) : Prop :=
  toldTo handle history = [] ∨
    (toldTo handle history).length = 1 ∧ handle < process.clients.length ∧
      ∀ client, process.client? handle = some client → client.state = .disconnected

/-- What a client has been told of is told action by action. -/
theorem toldTo_snoc (handle : Nat) (history : List Action) (action : Action) :
    toldTo handle (history ++ [action]) = toldTo handle history ++ action.told handle := by
  simp [toldTo]

/-- A step that reports nothing to a client does not revive it either. It may be a step on
another client. -/
theorem OverAfterReport.untold {word : WordSize} {history : List Action} {before after : Process}
    {action : Action} {handle : Nat} (settled : OverAfterReport history before handle)
    (silent : action.told handle = []) (taken : StepSound word before action after) :
    OverAfterReport (history ++ [action]) after handle := by
  unfold OverAfterReport
  rw [toldTo_snoc, silent, List.append_nil]
  obtain ⟨grows, moved⟩ := taken.evolves
  refine settled.imp_right (fun ⟨one, inside, ended⟩ => ⟨one, by omega, fun client live => ?_⟩)
  obtain ⟨earlier, lived, moves⟩ := moved handle inside client live
  rw [ended earlier lived] at moves
  exact moves.of_disconnected

/-- A call on the client itself that reports something. It is the first report, since the client
was still connected. -/
theorem OverAfterReport.called {history : List Action} {before : Process} {handle : Nat}
    {client : Client} {final : Memory} {call : ApiCall} {events : List Step}
    {result : Except Error Unit} (settled : OverAfterReport history before handle)
    (live : before.client? handle = some client) (told : reasons events ≠ [])
    (sound : CallSound call (before.memoryOf client) events result final) :
    OverAfterReport (history ++ [.called handle call events result])
      ⟨before.clients.set handle (some final.client), final.platformInitCount⟩ handle := by
  have inside : handle < before.clients.length := client?_lt live
  obtain ⟨connected, disconnected⟩ := sound.settled told
  have fresh : toldTo handle history = [] := by
    apply settled.resolve_right
    intro settled
    exact absurd ((settled.2.2 client live).symm.trans connected) (by decide)
  refine .inr ⟨?_, by simpa using inside, fun later survives => ?_⟩
  · rw [toldTo_snoc, fresh, List.nil_append, Action.told, if_pos rfl]
    have some : 0 < (reasons events).length := List.length_pos_iff.mpr told
    have one := toldBy_length call client result
    rw [← show reasons events = toldBy call client result from sound.told] at one
    omega
  · rw [client?_set _ _ before.platformInitCount, if_pos ⟨rfl, inside⟩] at survives
    rw [← Option.some.inj survives]
    exact disconnected

/-- Once a disconnection has been reported to a client, no step reports another one. A
disconnected client has no transport to lose. -/
theorem OverAfterReport.step {word : WordSize} {history : List Action} {before after : Process}
    {action : Action} {handle : Nat} (settled : OverAfterReport history before handle)
    (taken : StepSound word before action after) :
    OverAfterReport (history ++ [action]) after handle := by
  by_cases silent : action.told handle = []
  · exact settled.untold silent taken
  cases action with
  | created => exact absurd rfl silent
  | called other call events result =>
    obtain ⟨client, final, live, rfl, sound, -⟩ := taken
    by_cases same : other = handle
    · subst same
      exact settled.called live (by simpa [Action.told] using silent) sound
    · exact absurd (if_neg same) silent
  | destroyed other events =>
    obtain ⟨client, live, clients, untold, -⟩ := taken
    exact absurd (by simp [Action.told, untold]) silent

/-- So none is reported in any run. -/
theorem Reaches.overAfterReport {word : WordSize} {history : List Action} {process : Process}
    (reached : Reaches word Allowed history process) (handle : Nat) :
    OverAfterReport history process handle := by
  refine (Run.invariant (fun history process => process.Sound ∧
    OverAfterReport history process handle) ⟨sound_initial, .inl rfl⟩ ?_ reached).2
  intro history before action after ⟨sound, settled⟩ taken
  exact ⟨(sound.step taken).1, settled.step (sound.step taken).2⟩

end Process

/-! ## The whole life -/

/-- In every reachable process the clients and the count agree and no client was told
of its end twice; every further step does what it may; and a call that is still running
on a client that is not connected has not touched a connection either. -/
theorem client_lifecycle {word : WordSize} {history : List Process.Action} {process : Process}
    (reached : Process.Reaches word Allowed history process) :
    process.Sound ∧ (∀ handle, (Process.toldTo handle history).length ≤ 1) ∧
      (∀ action after, Process.Transition word Allowed process action after →
        Process.StepSound word process action after) ∧
      ∀ handle client, process.client? handle = some client → client.state ≠ .connected →
        (∀ bound call events outcome final, call ≠ .connect →
          Execution Allowed (perform word bound call) (process.memoryOf client) events outcome
            final → events = []) ∧
        ∀ events outcome final,
          Execution Allowed clientDestroy (process.memoryOf client) events outcome final →
            ∀ event ∈ events, event.request.isTransport = false := by
  have sound : process.Sound := reached.sound
  refine ⟨sound, fun handle => ?_, fun action after taken => (sound.step taken).2, ?_⟩
  · rcases reached.overAfterReport handle with untold | ⟨one, -⟩
    · simp [untold]
    · exact Nat.le_of_eq one
  · intro handle client live idle
    constructor
    · intro bound call events outcome final other execution
      have nothing : (perform word bound call).wp Allowed (fun events _ _ => events = [])
          (process.memoryOf client) :=
        perform_unconnected word bound other idle (fun _ => rfl) (fun _ => rfl)
      exact (wp_iff _ _ _).mp nothing _ _ _ execution
    · intro events outcome final execution
      exact ((wp_iff _ _ _).mp (clientDestroy_ends _) _ _ _ execution).idle idle

/-- A client that has connected, in a process that is sound. -/
theorem client_lifecycle_connected : ∃ history process client,
    Process.Reaches .bits64 Allowed history process ∧ process.client? 0 = some client ∧
      client.state = .connected ∧ process.Sound := by
  obtain ⟨history, process, client, reached, live, connected⟩ :=
    connected_reachable (fun _ _ provisioned => provisioned.1)
  exact ⟨history, process, client, reached, live, connected, (client_lifecycle reached).1⟩

end OpenVnc
