import OpenVnc.OpenSockets
import OpenVnc.Properties.Lifecycle
import OpenVnc.Properties.SocketRefinement
import Mathlib.Algebra.BigOperators.Group.List.Basic
import Mathlib.Algebra.Order.Group.Multiset

/-!
# The open sockets of a process

Between two calls the sockets that the library has opened and not closed are those of the
connected clients, one each. No system call is made on a socket that is not open, not even by a
call that is still running.
-/

namespace OpenVnc

open Interaction Interaction.Program

/-- The sockets that are open after some calls, when each of them was on an open socket. -/
def openAfter (opened : Multiset Socket) (calls : List CallStep) : Option (Multiset Socket) :=
  (Shadow.blind callLedger).after opened calls

/-- No socket is handed out while it is open. -/
def Fresh (opened : Multiset Socket) : List CallStep → Prop
  | [] => True
  | call :: calls =>
    (∀ memory rp sock, call = ⟨memory, .system (.socket rp), sock⟩ → sock ∉ opened) ∧
      ∀ next, callLedger opened call.request call.answer = some next → Fresh next calls

namespace Process

/-- The socket of a slot whose client is connected. -/
def slotSocket (slot : Option Client) : Option Socket :=
  slot.bind (fun client =>
    if client.state = .connected then client.transport.map Transport.sock else none)

/-- The sockets of the connected clients. -/
def connectedSockets (process : Process) : Multiset Socket :=
  process.clients.filterMap slotSocket

/-- The sockets of a slot. -/
def slotSockets (slot : Option Client) : Multiset Socket := slot.elim 0 Client.sockets

/-- The sockets of all clients. -/
def sockets (process : Process) : Multiset Socket := (process.clients.map slotSockets).sum

/-- The sockets of one client and of the others. -/
theorem sockets_split {process : Process} {handle : Nat} {client : Client}
    (live : process.client? handle = some client) :
    ∃ others, process.sockets = client.sockets + others ∧ ∀ slot count,
      (Process.mk (process.clients.set handle slot) count).sockets = slotSockets slot + others := by
  let each := process.clients.map slotSockets
  have replaced (slot : Option Client) (count : Int) :
      (Process.mk (process.clients.set handle slot) count).sockets =
        slotSockets slot + ((each.take handle).sum + (each.drop (handle + 1)).sum) := by
    have inside : handle < each.length := by simpa [each] using client?_lt live
    unfold sockets
    rw [List.map_set, List.sum_set, if_pos inside]
    exact (congrArg (· + _) (add_comm _ _)).trans (add_assoc _ _ _)
  have same : process.clients.set handle (some client) = process.clients := by
    obtain ⟨inside, present⟩ := List.getElem?_eq_some_iff.mp (getElem?_of_client? live)
    rw [← present, List.set_getElem_self]
  refine ⟨_, ?_, replaced⟩
  have whole := replaced (some client) process.platformInitCount
  rwa [same] at whole

/-- The ledger has the sockets of the clients, and no client uses a transport that is not
connected. -/
structure Tracked (history : List (Level.Action CallStep)) (process : Process) : Prop where
  ledger : openAfter 0 (history.flatMap Level.Action.events) = some process.sockets
  valid : ∀ handle client transport, process.client? handle = some client →
    client.transport = some transport → transport.sock ≠ invalidSocket

end Process

section Routines

variable {word : WordSize} {outside : (request : Request) → Answer request → Prop}

/-- A routine in step with the open sockets is so on POSIX sockets. -/
theorem tracks_onPosix {routine : Routine Unit} {opened : Multiset Socket} {memory final : Memory}
    {limit : Nat} {calls : List CallStep} {outcome : Outcome Error Fault Unit}
    {passed : Unit → Multiset Socket → Memory → Prop}
    {settled : Error → Multiset Socket → Memory → Prop}
    (tracks : KeepsTrack outside opened routine memory passed settled)
    (executed : Execution (Behaves outside) (onPosix limit routine) memory calls outcome final) :
    ∃ reached, openAfter opened calls = some reached ∧
      match outcome with
      | .returned value => passed value reached final
      | .failed error => settled error reached final
      | _ => True := by
  have below := tracks.translate (fun state memory request stepping =>
    posix_answers limit stepping)
  obtain ⟨reached, stepped, ended⟩ := (wp_iff _ _ _).mp below _ _ _ executed
  refine ⟨reached, stepped, ?_⟩
  cases outcome with
  | returned | failed => exact ended
  | faulted | waiting => trivial

/-- Nothing is answered on POSIX sockets that is not allowed. -/
theorem onPosix_allowed (request : Request) (answer : Answer request)
    (given : OnPosix outside request answer) : Allowed request answer := by
  cases request with
  | recv | send => exact given
  | socketConnect host port timeoutMs =>
    cases answer with
    | ok sock =>
      have valid : (0 : Int) ≤ sock := given
      rintro rfl
      exact absurd valid (by decide)
    | error error => trivial
  | malloc | calloc | free | callocTransport | socketClose | callback | allocFramebuffer =>
    trivial

end Routines

namespace Process

variable {word : WordSize} {outside : (request : Request) → Answer request → Prop}
  {history : List (Level.Action CallStep)} {before after : Process} {action : Level.Action CallStep}

/-- The calls of a further step. -/
theorem openAfter_snoc {opened : Multiset Socket}
    (ledger : openAfter 0 (history.flatMap Level.Action.events) = some opened) :
    openAfter 0 ((history ++ [action]).flatMap Level.Action.events) =
      openAfter opened action.events := by
  unfold openAfter at ledger ⊢
  rw [List.flatMap_append, Shadow.after_append, ledger]
  simp

/-- The sockets of the others and a client of the process. -/
theorem Tracked.linked (tracked : Tracked history before) {handle : Nat} {client : Client}
    (live : before.client? handle = some client) {others : Multiset Socket}
    (split : before.sockets = client.sockets + others) :
    SocketsLinked others before.sockets (before.memoryOf client) :=
  ⟨split, fun transport attached => tracked.valid handle client transport live attached⟩

/-- A client that has not been connected has no transport. -/
theorem Sound.fresh {process : Process} (sound : process.Sound) {handle : Nat} {client : Client}
    (live : process.client? handle = some client) (created : client.state = .created) :
    client.transport = none := by
  apply Option.not_isSome_iff_eq_none.mp
  intro attached
  exact absurd (created.symm.trans ((sound.linked handle client live).mp attached)) (by decide)

/-- The sockets stay valid when one client is replaced. -/
theorem Tracked.valid_set (tracked : Tracked history before) {handle : Nat} {slot : Option Client}
    {count : Int} (replaced : ∀ client transport, slot = some client →
      client.transport = some transport → transport.sock ≠ invalidSocket) :
    ∀ other client transport,
      (Process.mk (before.clients.set handle slot) count).client? other = some client →
      client.transport = some transport → transport.sock ≠ invalidSocket := by
  intro other client transport live attached
  rw [client?_set _ _ before.platformInitCount] at live
  split at live
  · exact replaced client transport live attached
  · exact tracked.valid other client transport live attached

/-- A step keeps the track of the sockets: it opens or closes those of the client it is about. -/
theorem Tracked.step (tracked : Tracked history before) (sound : before.Sound)
    (taken : (posixLevel word outside).Transition before action after) :
    Tracked (history ++ [action]) after := by
  cases taken with
  | @create client config callbacks record host pixelFormat encodings made =>
    obtain ⟨name, rfl⟩ := clientCreate_some made
    refine ⟨(openAfter_snoc tracked.ledger).trans ?_,
      fun handle client transport live attached => ?_⟩
    · simp [openAfter, Shadow.after, Level.Action.events, sockets, slotSockets, Client.sockets,
        freshClient]
    · rw [client?_append] at live
      split at live
      · obtain rfl := Option.some.inj live
        exact absurd attached (by simp [freshClient])
      · exact tracked.valid handle client transport live attached
  | @call handle client call calls final result live performed =>
    obtain ⟨bound, limit, performed⟩ := performed
    obtain ⟨others, split, replaced⟩ := sockets_split live
    obtain ⟨reached, stepped, ended⟩ := tracks_onPosix (perform_tracks word bound call
      (sound.fresh live) (tracked.linked live split)) performed
    have linked : SocketsLinked others reached final := by
      cases result <;> exact ended
    refine ⟨(openAfter_snoc tracked.ledger).trans (stepped.trans ?_), tracked.valid_set ?_⟩
    · rw [replaced, linked.opened]
      rfl
    · rintro _ transport ⟨⟩ attached
      exact linked.usable transport attached
  | @destroy handle client calls final live performed =>
    obtain ⟨limit, performed⟩ := performed
    obtain ⟨others, split, replaced⟩ := sockets_split live
    obtain ⟨reached, stepped, rfl⟩ := tracks_onPosix
      (clientDestroy_tracks split (sound.linked handle client live).mp) performed
    refine ⟨(openAfter_snoc tracked.ledger).trans (stepped.trans ?_), tracked.valid_set (by simp)⟩
    rw [replaced]
    simp [slotSockets]

/-- A step on POSIX sockets is a step in which nothing is answered that is not allowed. -/
theorem Sound.posixStep (sound : before.Sound)
    (taken : (posixLevel word outside).Transition before action after) : after.Sound := by
  obtain ⟨-, action', above, -⟩ :=
    (library_simulates_posix word outside).step (fun _ _ _ => trivial) taken
  obtain ⟨action', taken', -⟩ := Level.transition_of_library above
  exact (sound.step (taken'.weaken onPosix_allowed)).1

/-- In every reachable process the sockets are tracked, and the process is sound. -/
theorem tracked_of_posixReaches {process : Process}
    (reached : (posixLevel word outside).Reaches history process) :
    Tracked history process ∧ process.Sound := by
  refine Run.invariant (fun history process => Tracked history process ∧ process.Sound)
    ⟨⟨rfl, by simp [initial, client?]⟩, sound_initial⟩ ?_ reached
  rintro history before action after ⟨tracked, sound⟩ taken
  exact ⟨tracked.step sound taken, sound.posixStep taken⟩

/-- The sockets of the clients are those of the connected ones. -/
theorem sockets_eq {process : Process} (tracked : Tracked history process)
    (sound : process.Sound) : process.sockets = process.connectedSockets := by
  have each : ∀ slot ∈ process.clients, slotSockets slot = (slotSocket slot).toList := by
    intro slot member
    obtain ⟨handle, present⟩ := List.mem_iff_getElem?.mp member
    cases slot with
    | none => rfl
    | some client =>
      have live : process.client? handle = some client := by simp [client?, present]
      have linked := sound.linked handle client live
      cases attached : client.transport with
      | none => simp [slotSockets, slotSocket, Client.sockets, attached]
      | some transport =>
        have connected : client.state = .connected := linked.mp (by simp [attached])
        have valid := tracked.valid handle client transport live attached
        simp [slotSockets, slotSocket, Client.sockets, attached, connected, valid]
  unfold sockets connectedSockets
  generalize process.clients = slots at each
  induction slots with
  | nil => rfl
  | cons slot slots inductionHypothesis =>
    have rest := inductionHypothesis
      (fun other member => each other (List.mem_cons_of_mem _ member))
    rw [List.map_cons, List.sum_cons, rest, each slot List.mem_cons_self, List.filterMap_cons]
    cases slotSocket slot <;> rfl

end Process

/-- One call, unless it hands out an open socket. -/
theorem callLedger_nodup {opened next : Multiset Socket} {call : CallStep}
    (unopened : ∀ memory rp sock, call = ⟨memory, .system (.socket rp), sock⟩ → sock ∉ opened)
    (distinct : opened.Nodup)
    (taken : callLedger opened call.request call.answer = some next) : next.Nodup := by
  have kept {sock : Socket} (taken : (if sock ∈ opened then some opened else none) = some next) :
      next.Nodup := by
    split at taken
    · exact Option.some.inj taken ▸ distinct
    · exact absurd taken (by simp)
  obtain ⟨memory, request, answer⟩ := call
  cases request with
  | move sock move => exact kept taken
  | outside request => exact Option.some.inj taken ▸ distinct
  | system call =>
    cases call with
    | getaddrinfo | freeaddrinfo => exact Option.some.inj taken ▸ distinct
    | fcntlGetfl | fcntlSetfl | connect | poll | getsockopt => exact kept taken
    | socket rp =>
      obtain rfl := Option.some.inj taken
      split
      · exact distinct
      · exact Multiset.nodup_cons.mpr ⟨unopened memory rp answer rfl, distinct⟩
    | close sock =>
      replace taken : (if sock ∈ opened then some (opened.erase sock) else none) = some next :=
        taken
      split at taken
      · exact Option.some.inj taken ▸ distinct.erase sock
      · exact absurd taken (by simp)

/-- The ledger has no socket twice, when none is handed out while it is open. -/
theorem Fresh.nodup {opened reached : Multiset Socket} {calls : List CallStep}
    (fresh : Fresh opened calls) (distinct : opened.Nodup)
    (ledger : openAfter opened calls = some reached) : reached.Nodup := by
  induction calls generalizing opened with
  | nil =>
    obtain rfl := Option.some.inj ledger
    exact distinct
  | cons call calls inductionHypothesis =>
    obtain ⟨unopened, later⟩ := fresh
    obtain ⟨next, taken, rest⟩ := Option.bind_eq_some_iff.mp ledger
    exact inductionHypothesis (later next taken) (callLedger_nodup unopened distinct taken) rest

/-- The sockets that the library has open between two calls are those of the connected clients.
Every system call of a call that is completed or still running is on an open socket. No two
clients have the same socket, unless the system hands one out that is open. -/
theorem posix_sockets {word : WordSize} {outside : (request : Request) → Answer request → Prop}
    {history : List (Level.Action CallStep)} {process : Process}
    (reached : (posixLevel word outside).Reaches history process) :
    openAfter 0 (history.flatMap Level.Action.events) = some process.connectedSockets ∧
      (∀ handle client routine limit calls outcome final, process.client? handle = some client →
        (routine = clientDestroy ∨ ∃ bound call, routine = perform word bound call) →
        Execution (Behaves outside) (onPosix limit routine) (process.memoryOf client) calls outcome
          final → (openAfter process.connectedSockets calls).isSome) ∧
      (Fresh 0 (history.flatMap Level.Action.events) → process.connectedSockets.Nodup) := by
  obtain ⟨tracked, sound⟩ := Process.tracked_of_posixReaches reached
  have ledger := tracked.ledger
  have same := Process.sockets_eq tracked sound
  rw [same] at ledger
  refine ⟨ledger, ?_, fun fresh => fresh.nodup Multiset.nodup_zero ledger⟩
  intro handle client routine limit calls outcome final live routines executed
  obtain ⟨others, split, -⟩ := Process.sockets_split live
  rw [← same]
  rcases routines with rfl | ⟨bound, call, rfl⟩
  · obtain ⟨reached, stepped, -⟩ := tracks_onPosix
      (clientDestroy_tracks split (sound.linked handle client live).mp) executed
    exact Option.isSome_iff_exists.mpr ⟨reached, stepped⟩
  · obtain ⟨reached, stepped, -⟩ := tracks_onPosix (perform_tracks word bound call
      (sound.fresh live) (tracked.linked live split)) executed
    exact Option.isSome_iff_exists.mpr ⟨reached, stepped⟩

/-- The host answers as it can on POSIX sockets. -/
theorem plainHost_onPosix (request : Request) (feed : Feed) (answer : Answer request)
    (later : Feed) (answered : plainHost.feed request feed = (some answer, later)) :
    OnPosix (fun _ _ => True) request answer := by
  have allowed := plainHost_allowed request feed answer later answered
  cases request with
  | recv | send => exact allowed
  | socketConnect host port timeoutMs =>
    obtain ⟨rfl, -⟩ := by simpa [Host.feed] using answered
    exact (by decide : (0 : Int) ≤ 3)
  | malloc | calloc | free | callocTransport | socketClose | callback | allocFramebuffer =>
    trivial

/-- One client that is connected has the one open socket. -/
theorem posix_sockets_connected : ∃ history process,
    (posixLevel .bits64 fun _ _ => True).Reaches history process ∧ process.connectedSockets = {3} ∧
      openAfter 0 (history.flatMap Level.Action.events) = some {3} := by
  obtain ⟨history, reached⟩ :=
    plainConnected_reaches_within plainHost_onPosix plainConnected_returned.1
  have above := (Level.library_reaches_iff _ _ _ _).mpr ⟨history, reached, rfl⟩
  obtain ⟨below, reachedBelow, -⟩ := (posix_simulates_library _ _).reaches above
  have connected : (Process.mk [some (plainConnected {}).2.1.client]
      (plainConnected {}).2.1.platformInitCount).connectedSockets = {3} := by decide
  exact ⟨below, _, reachedBelow, connected, connected ▸ (posix_sockets reachedBelow).1⟩

end OpenVnc
