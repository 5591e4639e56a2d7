import OpenVnc.Process

/-!
# Levels at which the library runs

What an API call does can be told in more or less detail: above the transport layer, on the
sockets below it, or together with what an application does in its callbacks. A level is one
such account of the calls, with events of its own. It has its own runs of a process; when each
of its calls is matched by one of another level, from what is seen of the events, so are its
runs.
-/

namespace OpenVnc

open Interaction

/-- An account of the calls of the API and of destruction: the events that can occur and how
they end. -/
structure Level (E : Type) where
  performs : ApiCall → Memory → List E → Except Error Unit → Memory → Prop
  destroys : Memory → List E → Memory → Prop

/-- What is seen of a step of a process. -/
inductive Observation (B : Type) where
  | created
  | called (handle : Nat) (call : ApiCall) (sights : List B) (result : Except Error Unit)
  | destroyed (handle : Nat) (sights : List B)

namespace Level

variable {E E' B : Type}

/-- What an observer of the process sees of a step, events included. -/
inductive Action (E : Type) where
  | created
  | called (handle : Nat) (call : ApiCall) (events : List E) (result : Except Error Unit)
  | destroyed (handle : Nat) (events : List E)

namespace Action

/-- The events of a step. -/
def events : Action E → List E
  | created => []
  | called _ _ events _ => events
  | destroyed _ events => events

/-- What is seen of a step when only `seen` is seen of an event. -/
def observation (seen : E → List B) : Action E → Observation B
  | created => .created
  | called handle call events result => .called handle call (events.flatMap seen) result
  | destroyed handle events => .destroyed handle (events.flatMap seen)

end Action

/-- One step of a process. -/
inductive Transition (level : Level E) : Process → Action E → Process → Prop where
  | create {process : Process} {client : Client} (config : ClientConfig)
      (callbacks : Option ClientCallbacks) (record host pixelFormat encodings : Bool)
      (made : clientCreate config callbacks record host pixelFormat encodings = some client) :
      Transition level process .created
        { process with clients := process.clients ++ [some client] }
  | call {process : Process} {handle : Nat} {client : Client} {call : ApiCall} {events : List E}
      {final : Memory} {result : Except Error Unit} (live : process.client? handle = some client)
      (performed : level.performs call (process.memoryOf client) events result final) :
      Transition level process (.called handle call events result)
        ⟨process.clients.set handle (some final.client), final.platformInitCount⟩
  | destroy {process : Process} {handle : Nat} {client : Client} {events : List E}
      {final : Memory} (live : process.client? handle = some client)
      (performed : level.destroys (process.memoryOf client) events final) :
      Transition level process (.destroyed handle events)
        ⟨process.clients.set handle none, final.platformInitCount⟩

/-- A process reachable at the level, with the history of its steps. -/
def Reaches (level : Level E) (history : List (Action E)) (process : Process) : Prop :=
  Run level.Transition Process.initial history process

/-- The level of `Process.Transition`. -/
def library (word : WordSize) (may : (request : Request) → Answer request → Prop) :
    Level Step where
  performs call memory events result final :=
    ∃ bound, Execution may (perform word bound call) memory events (Outcome.finished result) final
  destroys memory events final := Execution may clientDestroy memory events (.returned ()) final

/-- A step of a process as a step at the level of the library. -/
def ofProcess : Process.Action → Action Step
  | .created => .created
  | .called handle call events result => .called handle call events result
  | .destroyed handle events => .destroyed handle events

section Library

variable {word : WordSize} {may : (request : Request) → Answer request → Prop}

/-- What a process does, the library's level does with the same steps. How often `ovnc_client_run`
may iterate is forgotten. -/
theorem library_of_transition {before after : Process} {action : Process.Action}
    (taken : Process.Transition word may before action after) :
    (library word may).Transition before (ofProcess action) after := by
  cases taken with
  | create config callbacks record host pixelFormat encodings made =>
    exact .create config callbacks record host pixelFormat encodings made
  | @returned handle client call bound events final live performed =>
    exact .call live ⟨bound, performed⟩
  | @failed handle client call bound events final error live performed =>
    exact .call live ⟨bound, performed⟩
  | destroy live performed => exact .destroy live performed

/-- Conversely a step at the library's level is one of the process, for some number of iterations.
-/
theorem transition_of_library {before after : Process} {action : Action Step}
    (taken : (library word may).Transition before action after) :
    ∃ action', Process.Transition word may before action' after ∧ ofProcess action' = action := by
  cases taken with
  | create config callbacks record host pixelFormat encodings made =>
    exact ⟨.created, .create config callbacks record host pixelFormat encodings made, rfl⟩
  | @call handle client call events final result live performed =>
    obtain ⟨bound, performed⟩ := performed
    cases result with
    | ok value => exact ⟨.called handle call events (.ok ()), .returned live performed, rfl⟩
    | error error => exact ⟨.called handle call events (.error error), .failed live performed, rfl⟩
  | @destroy handle client events final live performed =>
    exact ⟨.destroyed handle events, .destroy live performed, rfl⟩

end Library

/-- Every call of the lower level on a client of which `held` is true is matched by one of the
upper level that leaves the same, and leaves the client so. -/
structure Simulates (above : Level E) (below : Level E') (seen : E → List B)
    (seen' : E' → List B) (held : Client → Prop) : Prop where
  fresh : ∀ host config callbacks, held (freshClient host config callbacks)
  performs : ∀ {call memory events result final}, held memory.client →
    below.performs call memory events result final → held final.client ∧
      ∃ events', above.performs call memory events' result final ∧
        events'.flatMap seen = events.flatMap seen'
  destroys : ∀ {memory events final}, held memory.client →
    below.destroys memory events final →
      ∃ events', above.destroys memory events' final ∧
        events'.flatMap seen = events.flatMap seen'

namespace Simulates

variable {above : Level E} {below : Level E'} {seen : E → List B} {seen' : E' → List B}
  {held : Client → Prop} (simulates : Simulates above below seen seen' held)
include simulates

/-- A step of the lower level is matched by one of the upper level. -/
theorem step {before after : Process} {action : Action E'}
    (holds : ∀ handle client, before.client? handle = some client → held client)
    (taken : below.Transition before action after) :
    (∀ handle client, after.client? handle = some client → held client) ∧
      ∃ action', above.Transition before action' after ∧
        action'.observation seen = action.observation seen' := by
  have replaced {changed : Nat} {slot : Option Client} {count : Int}
      (kept : ∀ client, slot = some client → held client) (handle : Nat) (client : Client)
      (live : (Process.mk (before.clients.set changed slot) count).client? handle = some client) :
      held client := by
    rw [Process.client?_set _ _ before.platformInitCount] at live
    split at live
    · exact kept client live
    · exact holds handle client live
  cases taken with
  | create config callbacks record host pixelFormat encodings made =>
    refine ⟨fun handle client live => ?_, _,
      .create config callbacks record host pixelFormat encodings made, rfl⟩
    rw [Process.client?_append] at live
    split at live
    · obtain ⟨name, fields⟩ := clientCreate_some made
      exact Option.some.inj live ▸ fields ▸ simulates.fresh _ _ _
    · exact holds handle client live
  | @call handle client call events final result live performed =>
    obtain ⟨kept, events', performed', same⟩ :=
      simulates.performs (holds handle client live) performed
    refine ⟨replaced ?_, _, .call live performed',
      congrArg (Observation.called handle call · result) same⟩
    rintro _ ⟨⟩
    exact kept
  | @destroy handle client events final live performed =>
    obtain ⟨events', performed', same⟩ := simulates.destroys (holds handle client live) performed
    exact ⟨replaced (by simp), _, .destroy live performed',
      congrArg (Observation.destroyed handle) same⟩

/-- What is seen of a process at the lower level, and the clients and the count it comes to,
are those of a process at the upper level. -/
theorem reaches {history : List (Action E')} {process : Process}
    (reached : below.Reaches history process) :
    ∃ history', above.Reaches history' process ∧
      history'.map (Action.observation seen) = history.map (Action.observation seen') :=
  Run.observed (fun process => ∀ handle client, process.client? handle = some client → held client)
    (by simp [Process.initial, Process.client?])
    (fun _ _ _ holds taken => simulates.step holds taken) reached

end Simulates

/-- The runs of a process and those at the level of the library are the same. -/
theorem library_reaches_iff (word : WordSize)
    (may : (request : Request) → Answer request → Prop) (process : Process)
    (history : List (Action Step)) :
    (library word may).Reaches history process ↔
      ∃ history', Process.Reaches word may history' process ∧ history'.map ofProcess = history := by
  constructor
  · intro reached
    obtain ⟨history', above, same⟩ := Run.observed (fun _ => True) trivial
      (fun _ _ _ _ taken => ⟨trivial, transition_of_library taken⟩) reached
    exact ⟨history', above, same.trans (List.map_id history)⟩
  · rintro ⟨history', above, rfl⟩
    refine Run.invariant (fun history process =>
      (library word may).Reaches (history.map ofProcess) process) .nil ?_ above
    intro history before action after reached taken
    rw [List.map_append]
    exact reached.snoc (library_of_transition taken)

end Level

end OpenVnc
