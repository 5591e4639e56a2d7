import OpenVnc.Client
import OpenVnc.Interaction.Runs

/-!
# A process and its clients

The library's whole state in one process: the clients made so far, each live or
destroyed, and the initialization count they share. A step creates a client,
completes one call of the API on a live client, or destroys one. A call runs
against an environment of which only `may` is known, so that a run of the process
ranges over all server bytes, I/O failures, allocation failures and callback
behaviours that `may` admits.
-/

namespace OpenVnc

open Interaction

/-- A call of the API on an existing client. Creating and destroying a client are steps of their
own. -/
inductive ApiCall where
  | connect
  | disconnect
  | processMessage
  | run
  | requestUpdate (rect : Option Rect) (incremental : Int32)
  | sendKeyEvent (key : UInt32) (down : Int32)
  | sendPointerEvent (x y : UInt16) (buttonMask : UInt8)
  | sendCutText (text : Option (List UInt8)) (length : UInt32)
  | setPixelFormat (format : Option PixelFormat)
  | setEncodings (encodings : Option (List EncodingType))
deriving DecidableEq

/-- The calls that send: neither connect, disconnect, nor process messages. They need a
connection. -/
def ApiCall.sends : ApiCall → Bool
  | connect | disconnect | processMessage | run => false
  | _ => true

/-- The calls that process messages. They read from the stream, and only they do. -/
def ApiCall.receives : ApiCall → Bool
  | processMessage | run => true
  | _ => false

/-- The routine a call executes. The bound matters to `ovnc_client_run` only. The other calls
have no loop whose length is not known from their arguments. -/
def perform (word : WordSize) (bound : Nat) : ApiCall → Routine Unit
  | .connect => clientConnect word
  | .disconnect => clientDisconnect
  | .processMessage => clientProcessMessage word
  | .run => clientRun word bound
  | .requestUpdate rect incremental => clientRequestUpdate rect incremental
  | .sendKeyEvent key down => clientSendKeyEvent key down
  | .sendPointerEvent x y buttonMask => clientSendPointerEvent x y buttonMask
  | .sendCutText text length => clientSendCutText text length
  | .setPixelFormat format => clientSetPixelFormat word format
  | .setEncodings encodings => clientSetEncodings word encodings

/-- The routines of a sequence of calls on a client, which may end with its destruction.
Each call of `ovnc_client_run` has a bound of its own. -/
def callRoutines (word : WordSize) (calls : List (ApiCall × Nat)) (destroyed : Bool) :
    List (Routine Unit) :=
  calls.map (fun (call, bound) => perform word bound call) ++
    if destroyed then [clientDestroy] else []

/-- The end of an execution that hands this result to its caller. A fault and a wait are no
results. -/
def Outcome.finished : Except Error Unit → Outcome Error Fault Unit
  | .ok () => .returned ()
  | .error error => .failed error

/-- A call's result is that of a routine which returned or failed. -/
theorem Outcome.finished_ends (result : Except Error Unit) :
    Outcome.finished result = .returned () ∨ ∃ error, Outcome.finished result = .failed error := by
  cases result with
  | ok => exact .inl rfl
  | error error => exact .inr ⟨error, rfl⟩

/-- The clients made in a process, by handle, with `none` for a destroyed one, and
the shared initialization count. -/
structure Process where
  clients : List (Option Client)
  platformInitCount : Int

namespace Process

/-- A process that has not used the library yet. There is no client, and the platform has not
been initialized. -/
def initial : Process := ⟨[], 0⟩

/-- The client a handle refers to while it is live. The handle of a destroyed client refers to
none. -/
def client? (process : Process) (handle : Nat) : Option Client :=
  (process.clients[handle]?).join

/-- What a routine called on a client of the process works on. The count of initializations is
shared by all clients. -/
def memoryOf (process : Process) (client : Client) : Memory :=
  ⟨client, process.platformInitCount, 0⟩

/-- What an observer of the process sees of a step. The events of a call are those of its
routine, in their order. -/
inductive Action where
  | created
  | called (handle : Nat) (call : ApiCall) (events : List Step) (result : Except Error Unit)
  | destroyed (handle : Nat) (events : List Step)

/-- One step of a process. A call comes to a result, and what it does before is one step. -/
inductive Transition (word : WordSize) (may : (request : Request) → Answer request → Prop) :
    Process → Action → Process → Prop where
  | create {process : Process} {client : Client} (config : ClientConfig)
      (callbacks : Option ClientCallbacks) (record host pixelFormat encodings : Bool)
      (made : clientCreate config callbacks record host pixelFormat encodings = some client) :
      Transition word may process .created
        { process with clients := process.clients ++ [some client] }
  | returned {process : Process} {handle : Nat} {client : Client} {call : ApiCall} {bound : Nat}
      {events : List Step} {final : Memory}
      (live : process.client? handle = some client)
      (performed : Execution may (perform word bound call) (process.memoryOf client) events
        (.returned ()) final) :
      Transition word may process (.called handle call events (.ok ()))
        ⟨process.clients.set handle (some final.client), final.platformInitCount⟩
  | failed {process : Process} {handle : Nat} {client : Client} {call : ApiCall} {bound : Nat}
      {events : List Step} {final : Memory} {error : Error}
      (live : process.client? handle = some client)
      (performed : Execution may (perform word bound call) (process.memoryOf client) events
        (.failed error) final) :
      Transition word may process (.called handle call events (.error error))
        ⟨process.clients.set handle (some final.client), final.platformInitCount⟩
  | destroy {process : Process} {handle : Nat} {client : Client} {events : List Step}
      {final : Memory}
      (live : process.client? handle = some client)
      (performed : Execution may clientDestroy (process.memoryOf client) events
        (.returned ()) final) :
      Transition word may process (.destroyed handle events)
        ⟨process.clients.set handle none, final.platformInitCount⟩

/-- A step in one environment is a step in every less restricted one. Runs are carried over step
by step. -/
theorem Transition.weaken {word : WordSize} {may may' : (request : Request) → Answer request → Prop}
    (weaker : ∀ request answer, may request answer → may' request answer)
    {before after : Process} {action : Action}
    (transition : Transition word may before action after) :
    Transition word may' before action after := by
  cases transition with
  | create config callbacks record host pixelFormat encodings made =>
    exact .create config callbacks record host pixelFormat encodings made
  | returned live performed => exact .returned live (performed.weaken weaker)
  | failed live performed => exact .failed live (performed.weaken weaker)
  | destroy live performed => exact .destroy live (performed.weaken weaker)

/-- A process reachable from the initial one, with the history of its steps. The history is what
an observer has seen. -/
def Reaches (word : WordSize) (may : (request : Request) → Answer request → Prop)
    (history : List Action) (process : Process) : Prop :=
  Run (Transition word may) initial history process

/-! ## Clients before and after a step -/

/-- After a creation the last handle is the new client, and the others are as before. -/
theorem client?_append (clients : List (Option Client)) (count : Int) (made : Client)
    (handle : Nat) :
    (Process.mk (clients ++ [some made]) count).client? handle =
      if handle = clients.length then some made
      else (Process.mk clients count).client? handle := by
  unfold client?
  rw [List.getElem?_append]
  rcases Nat.lt_trichotomy handle clients.length with before | same | after
  · rw [if_pos before, if_neg (Nat.ne_of_lt before)]
  · simp [same]
  · rw [if_neg (by omega), if_neg (by omega), List.getElem?_eq_none (by simp; omega),
      List.getElem?_eq_none (Nat.le_of_lt after)]

/-- Replacing one client leaves the others. -/
theorem client?_set (clients : List (Option Client)) (count count' : Int) (handle other : Nat)
    (replaced : Option Client) :
    (Process.mk (clients.set handle replaced) count).client? other =
      if handle = other ∧ handle < clients.length then replaced
      else (Process.mk clients count').client? other := by
  unfold client?
  rw [List.getElem?_set]
  grind

/-- A live client's handle is in range. -/
theorem client?_lt {process : Process} {handle : Nat} {client : Client}
    (live : process.client? handle = some client) : handle < process.clients.length := by
  unfold client? at live
  by_contra outside
  rw [List.getElem?_eq_none (Nat.not_lt.mp outside)] at live
  exact absurd live (by simp)

/-- Where a client that is live after a step comes from: the step did not concern it, created
it, or completed a call on it. -/
theorem Transition.survivor {word : WordSize} {may : (request : Request) → Answer request → Prop}
    {before after : Process} {action : Action}
    (transition : Transition word may before action after)
    {handle : Nat} {client : Client} (live : after.client? handle = some client) :
    (before.client? handle = some client ∧
        ∀ call events result, action ≠ .called handle call events result) ∨
      (before.client? handle = none ∧ before.clients.length ≤ handle ∧
        ∃ host config callbacks, client = freshClient host config callbacks) ∨
      ∃ earlier bound call events result final, before.client? handle = some earlier ∧
        action = .called handle call events result ∧
        Execution may (perform word bound call) (before.memoryOf earlier) events
          (Outcome.finished result) final ∧ client = final.client := by
  cases transition with
  | create config callbacks record host pixelFormat encodings made =>
    rw [client?_append] at live
    split at live
    · next last =>
      obtain ⟨name, fields⟩ := clientCreate_some made
      obtain rfl := Option.some.inj live
      refine .inr (.inl ⟨?_, Nat.le_of_eq last.symm, name, _, _, fields⟩)
      cases earlier : before.client? handle with
      | none => rfl
      | some client => exact absurd (client?_lt earlier) (by omega)
    · exact .inl ⟨live, fun _ _ _ => nofun⟩
  | @returned handle' earlier call bound events final called performed =>
    rw [client?_set _ _ before.platformInitCount] at live
    split at live
    · next same =>
      obtain ⟨rfl, -⟩ := same
      exact .inr (.inr ⟨_, _, _, _, .ok (), _, called, rfl, performed, (Option.some.inj live).symm⟩)
    · next other =>
      refine .inl ⟨live, fun call' events' result same => other ?_⟩
      cases same
      exact ⟨rfl, client?_lt called⟩
  | @failed handle' earlier call bound events final error called performed =>
    rw [client?_set _ _ before.platformInitCount] at live
    split at live
    · next same =>
      obtain ⟨rfl, -⟩ := same
      exact .inr (.inr ⟨_, _, _, _, .error error, _, called, rfl, performed,
        (Option.some.inj live).symm⟩)
    · next other =>
      refine .inl ⟨live, fun call' events' result same => other ?_⟩
      cases same
      exact ⟨rfl, client?_lt called⟩
  | destroy called performed =>
    rw [client?_set _ _ before.platformInitCount] at live
    split at live
    · exact absurd live (by simp)
    · exact .inl ⟨live, fun _ _ _ => nofun⟩

/-- No handle is given back. A handle that has been given to a client is never another client's.
-/
theorem Transition.clients_length {word : WordSize}
    {may : (request : Request) → Answer request → Prop} {before after : Process} {action : Action}
    (transition : Transition word may before action after) :
    before.clients.length ≤ after.clients.length := by
  cases transition with
  | create => exact List.length_append ▸ Nat.le_add_right ..
  | returned | failed | destroy => exact Nat.le_of_eq List.length_set.symm

/-- A condition on a single client holds of every live client of a reachable process
when fresh clients meet it and every completed call keeps it. -/
theorem Reaches.every_client {word : WordSize}
    {may : (request : Request) → Answer request → Prop} (holds : Client → Prop)
    (fresh : ∀ host config callbacks, holds (freshClient host config callbacks))
    (kept : ∀ bound call (memory : Memory) events outcome final, holds memory.client →
      Execution may (perform word bound call) memory events outcome final →
      (outcome = .returned () ∨ ∃ error, outcome = .failed error) → holds final.client)
    {history : List Action} {process : Process} (reached : Reaches word may history process)
    {handle : Nat} {client : Client} (live : process.client? handle = some client) :
    holds client := by
  refine Run.state_invariant
    (fun process => ∀ handle client, process.client? handle = some client → holds client)
    ?_ ?_ reached handle client live
  · intro handle client live
    simp [initial, client?] at live
  · intro before label after held transition handle client live
    rcases transition.survivor live with ⟨same, -⟩ | ⟨-, -, host, config, callbacks, rfl⟩ |
      ⟨earlier, bound, call, events, result, final, called, -, performed, rfl⟩
    · exact held handle client same
    · exact fresh _ _ _
    · exact kept _ _ _ _ _ _ (held _ _ called) performed (Outcome.finished_ends result)

/-- A condition on a client that every completed call keeps holds of it from then on. It has to
be kept by every call, with any events and any outcome that is a result. -/
theorem later_client {word : WordSize} {may : (request : Request) → Answer request → Prop}
    (holds : Client → Prop)
    (kept : ∀ bound call (memory : Memory) events outcome final, holds memory.client →
      Execution may (perform word bound call) memory events outcome final →
      (outcome = .returned () ∨ ∃ error, outcome = .failed error) → holds final.client)
    {history : List Action} {before after : Process}
    (ran : Run (Transition word may) before history after) {handle : Nat} {first last : Client}
    (live : before.client? handle = some first) (held : holds first)
    (survives : after.client? handle = some last) : holds last := by
  -- A handle is given out once, so the client is the same one as long as it is live.
  refine (Run.state_invariant
    (fun process => handle < process.clients.length ∧
      ∀ client, process.client? handle = some client → holds client)
    ⟨client?_lt live, fun client same => ?_⟩ ?_ ran).2 last survives
  · obtain rfl : first = client := Option.some.inj (live.symm.trans same)
    exact held
  · rintro before label after ⟨known, held⟩ transition
    refine ⟨Nat.lt_of_lt_of_le known transition.clients_length, fun client live => ?_⟩
    rcases transition.survivor live with ⟨same, -⟩ | ⟨-, new, -⟩ |
      ⟨earlier, bound, call, events, result, final, called, -, performed, rfl⟩
    · exact held client same
    · exact absurd known (Nat.not_lt.mpr new)
    · exact kept _ _ _ _ _ _ (held _ called) performed (Outcome.finished_ends result)

end Process

end OpenVnc
