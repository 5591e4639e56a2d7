import OpenVnc.HeapErasure
import OpenVnc.LiveBlocks
import OpenVnc.Levels

/-!
# A process and the storage of its clients

The runs of a process in which the library manages its storage. A creation, which may be
refused, a call and a destruction are executions here, so that each step of a run shows what it
obtained and released. What can be seen of a step above the storage are the requests of the
library with their answers.
-/

namespace OpenVnc

open Interaction

namespace Heap

/-- An answered operation of a routine that manages its storage. -/
abbrev ManagedStep := Event Memory Operation Reply

/-- An answered operation of `ovnc_client_create`. -/
abbrev CreationStep := Event Unit Operation Reply

/-- What an observer of the process sees of a step. -/
inductive Action where
  | created (handle : Nat) (events : List CreationStep)
  | refused (handle : Nat) (events : List CreationStep)
  | called (handle : Nat) (call : ApiCall) (events : List ManagedStep)
      (result : Except Error Unit)
  | destroyed (handle : Nat) (events : List ManagedStep)

/-- One step of a process. The allocations of a creation may succeed or fail. -/
inductive Transition (word : WordSize) (may : (request : Request) → Answer request → Prop) :
    Process → Action → Process → Prop where
  | create {process : Process} {client : Client} {events : List CreationStep}
      (config : ClientConfig) (callbacks : Option ClientCallbacks)
      (performed : Execution (fun _ _ => True) (clientCreate word config callbacks) () events
        (.returned (some client)) ()) :
      Transition word may process (.created process.clients.length events)
        { process with clients := process.clients ++ [some client] }
  | refuse {process : Process} {events : List CreationStep} (config : ClientConfig)
      (callbacks : Option ClientCallbacks)
      (performed : Execution (fun _ _ => True) (clientCreate word config callbacks) () events
        (.returned none) ()) :
      Transition word may process (.refused process.clients.length events) process
  | call {process : Process} {handle : Nat} {client : Client} {call : ApiCall} {bound : Nat}
      {events : List ManagedStep} {result : Except Error Unit} {final : Memory}
      (live : process.client? handle = some client)
      (performed : Execution (Answers may) (perform word bound call) (process.memoryOf client)
        events (Outcome.finished result) final) :
      Transition word may process (.called handle call events result)
        ⟨process.clients.set handle (some final.client), final.platformInitCount⟩
  | destroy {process : Process} {handle : Nat} {client : Client} {events : List ManagedStep}
      {final : Memory} (live : process.client? handle = some client)
      (performed : Execution (Answers may) clientDestroy (process.memoryOf client) events
        (.returned ()) final) :
      Transition word may process (.destroyed handle events)
        ⟨process.clients.set handle none, final.platformInitCount⟩

/-- A process reachable from the initial one, with the history of its steps. -/
def Reaches (word : WordSize) (may : (request : Request) → Answer request → Prop)
    (history : List Action) (process : Process) : Prop :=
  Run (Transition word may) Process.initial history process

/-! ## What is seen above the storage -/

/-- A request of the library with its answer. -/
abbrev Exchange := (request : Request) × Answer request

/-- A step of a routine of the library. -/
def exchanges (step : Step) : List Exchange := [⟨step.request, step.answer⟩]

/-- What is left of an operation. -/
def operationExchanges : (operation : Operation) → Reply operation → List Exchange
  | .asked request, answer => [⟨request, answer⟩]
  | .object _, obtained => [⟨.callocTransport, obtained⟩]
  | .buffer _ size, obtained => [⟨.malloc size, obtained⟩]
  | .release _, _ => []
  | .recvInto _ len, answer => [⟨.recv len, answer⟩]
  | .sendFrom _ data, answer => [⟨.send data, answer⟩]

/-- A step of a routine that manages its storage. -/
def managedExchanges (step : ManagedStep) : List Exchange :=
  operationExchanges step.request step.answer

/-- What is seen of a step of a process. A refused creation is not seen. -/
def Action.observation : Action → List (Observation Exchange)
  | created _ _ => [.created]
  | refused _ _ => []
  | called handle call events result =>
      [.called handle call (events.flatMap managedExchanges) result]
  | destroyed handle events => [.destroyed handle (events.flatMap managedExchanges)]

/-- What is seen of a step of a process of the library. -/
def libraryObservation (action : Process.Action) : Observation Exchange :=
  (Level.ofProcess action).observation exchanges

end Heap

end OpenVnc
