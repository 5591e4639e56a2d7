import OpenVnc.Levels
import OpenVnc.Primitives
import OpenVnc.Interaction.Imitations

/-!
# Callbacks that call back into the library

A callback is a function of the application, which may call the library again before it
returns. `Reaction` is what it does then: a call at a time, each one depending on the results
of those before. Such an application takes the place of the environment in answering a
callback; the calls it makes run on the memory as they find it.
-/

namespace OpenVnc

open Interaction Interaction.Program

/-- What the application does in a callback. Every call has a bound for `ovnc_client_run`. -/
inductive Reaction where
  | leave
  | makes (call : ApiCall) (bound : Nat) (next : Except Error Unit → Reaction)

/-- What the library together with the application's callbacks asks of the environment. The
choice of what to do in a callback is asked for as the callback is entered; a nested request is
one of a call that the application makes in a callback. -/
inductive ReentrantRequest where
  | outside (request : Request)
  | enter (call : Callback)
  | nested (request : Request)

/-- Entering a callback is answered by the reaction of the application; the other requests are
answered as in the library alone. -/
abbrev ReentrantAnswer : ReentrantRequest → Type
  | .outside request => Answer request
  | .enter _ => Reaction
  | .nested request => Answer request

/-- A routine of the library together with the application's callbacks. -/
abbrev ReentrantRoutine (α : Type) :=
  Program Memory Error Fault ReentrantRequest ReentrantAnswer α

/-- An answered request of such a routine. -/
abbrev ReentrantStep := Event Memory ReentrantRequest ReentrantAnswer

/-- A call that is made in a callback. -/
def nestedCall (word : WordSize) (bound : Nat) (call : ApiCall) : ReentrantRoutine Unit :=
  translate (fun request => ask (ReentrantRequest.nested request)) (perform word bound call)

/-- The calls that are made in a callback. -/
def react (word : WordSize) : Reaction → ReentrantRoutine Unit
  | .leave => return ()
  | .makes call bound next => do
    let result ← attempt (nestedCall word bound call)
    react word (next result)

/-- The answer to each request. A callback has nothing left to do when it returns: if it
disconnects the client it does so on the way. -/
def reentrant (word : WordSize) : (request : Request) → ReentrantRoutine (Answer request)
  | .callback call => do
    let reaction : Reaction ← ask (ReentrantRequest.enter call)
    react word reaction
    return false
  | request => ask (ReentrantRequest.outside request)

/-- A routine with callbacks that call back. -/
def reenter {α : Type} (word : WordSize) (routine : Routine α) : ReentrantRoutine α :=
  translate (reentrant word) routine

/-- The calls that send a message and change nothing in the client, and the one that
disconnects it. A text is as long as it is said to be, and the size of a list of encodings does
not wrap. -/
def ApiCall.Transmits (word : WordSize) : ApiCall → Prop
  | disconnect | requestUpdate .. | sendKeyEvent .. | sendPointerEvent .. => True
  | sendCutText text length => ∀ bytes, text = some bytes → length.toNat ≤ bytes.length
  | setEncodings encodings => ∀ listed, encodings = some listed →
      word.wrap (4 + 4 * listed.length) = 4 + 4 * listed.length
  | connect | processMessage | run | setPixelFormat _ => False

/-- A callback that makes only such calls, in any order and any number. -/
def Reaction.Transmits (word : WordSize) : Reaction → Prop
  | leave => True
  | makes call _ next => call.Transmits word ∧ ∀ result, (next result).Transmits word

/-- An environment in which callbacks may do anything that a callback can be told to have
done. -/
def CallsBack (outside : (request : Request) → Answer request → Prop) :
    (request : Request) → Answer request → Prop
  | .callback _, _ => True
  | request, answer => outside request answer

/-- What is assumed of the environment and the application. -/
def Reenters (word : WordSize) (outside : (request : Request) → Answer request → Prop) :
    (request : ReentrantRequest) → ReentrantAnswer request → Prop
  | .outside request, answer => CallsBack outside request answer
  | .enter _, reaction => reaction.Transmits word
  | .nested request, answer => CallsBack outside request answer

/-- The level of the library together with the application's callbacks. -/
def reentrantLevel (word : WordSize) (outside : (request : Request) → Answer request → Prop) :
    Level ReentrantStep where
  performs call memory events result final := ∃ bound, Execution (Reenters word outside)
    (reenter word (perform word bound call)) memory events (Outcome.finished result) final
  destroys memory events final := Execution (Reenters word outside) (reenter word clientDestroy)
    memory events (.returned ()) final

/-! ## What is seen with and without nested calls -/

/-- A request that the library makes itself, or the beginning of a callback. -/
inductive Sight where
  | asked (request : Request) (answer : Answer request)
  | entered (call : Callback)

/-- What is seen of a request. Of a callback it is not seen what the application did in it, nor
is the close of the connection, which may be its doing. -/
def requestSights (step : Step) : List Sight :=
  match step with
  | ⟨_, .callback call, _⟩ => [.entered call]
  | ⟨_, .socketClose _, _⟩ => []
  | ⟨_, request, answer⟩ => [.asked request answer]

/-- The same with nested calls, of which nothing is seen. -/
def reentrantSights (step : ReentrantStep) : List Sight :=
  match step with
  | ⟨memory, .outside request, answer⟩ => requestSights ⟨memory, request, answer⟩
  | ⟨_, .enter call, _⟩ => [.entered call]
  | ⟨_, .nested _, _⟩ => []

/-- A connected client has a transport. -/
def Client.Attached (client : Client) : Prop := client.state = .connected → client.transport ≠ none

/-- The library with and without callbacks that call back. -/
def withAndWithout (word : WordSize) (outside : (request : Request) → Answer request → Prop) :
    Comparison Memory Answer ReentrantAnswer Sight where
  may := CallsBack outside
  may' := Reenters word outside
  held memory := memory.client.Attached
  seen := requestSights
  seen' := reentrantSights

end OpenVnc
