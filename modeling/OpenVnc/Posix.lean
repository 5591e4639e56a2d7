import OpenVnc.Levels
import OpenVnc.Socket
import OpenVnc.SocketConnect
import OpenVnc.Interaction.Translations

/-!
# The library on POSIX sockets

The requests of the transport layer answered by the functions of `ovnc_socket_posix.c`. What is
asked of the environment then is system calls, and the requests that have nothing to do with
sockets. The loops over `recv` and `send` take a bound on their system calls, as that of
`ovnc_client_run` does on its iterations.
-/

namespace OpenVnc

open Interaction Interaction.Program

/-- A call of `recv` or of `send` on a connection. -/
inductive Move where
  | recv (len : Nat)
  | send (data : List UInt8)
deriving DecidableEq, Repr

/-- What the library with its sockets asks of its environment. -/
inductive Call where
  | move (sock : Socket) (move : Move)
  | system (call : SysCall)
  | outside (request : Request)

/-- The bytes that a `send` has moved are those that it took from the buffer. -/
abbrev CallAnswer : Call → Type
  | .move .. => SysResult
  | .system call => SysAnswer call
  | .outside request => Answer request

/-- A routine of the library with its sockets. -/
abbrev PosixRoutine (α : Type) := Program Memory Error Fault Call CallAnswer α

/-- An answered call. -/
abbrev CallStep := Event Memory Call CallAnswer

/-- The loop of `ovnc__socket_recv_all` and of `ovnc__socket_send_all`, for `len` bytes of which
`moved` have been moved. -/
def moveAll (sock : Socket) (remaining : List UInt8 → Move) (len : Nat) :
    Nat → List UInt8 → PosixRoutine (List UInt8 × Option Error)
  | 0, moved => if len ≤ moved.length then return (moved, none) else stalled
  | calls + 1, moved =>
    if len ≤ moved.length then return (moved, none)
    else do
      let result : SysResult ← ask (Call.move sock (remaining moved))
      match result with
      | .interrupted => moveAll sock remaining len calls moved
      | .failed => return (moved, some .io)
      | .moved [] => return (moved, some .connectionClosed)
      | .moved bytes => moveAll sock remaining len calls (moved ++ bytes)

/-- The `recv` for the rest of the bytes. -/
def recvRest (len : Nat) (moved : List UInt8) : Move := .recv (len - moved.length)

/-- The `send` of the rest of the bytes. -/
def sendRest (data : List UInt8) (moved : List UInt8) : Move := .send (data.drop moved.length)

/-- How a receive ends with its loop. -/
def RecvAnswer.ofLoop : List UInt8 × Option Error → RecvAnswer
  | (moved, none) => .complete moved
  | (moved, some error) => .stopped moved error

/-- How a send ends with its loop. -/
def SendAnswer.ofLoop : List UInt8 × Option Error → SendAnswer
  | (_, none) => .complete
  | (moved, some error) => .stopped moved.length error

/-- `ovnc__socket_recv_all`. -/
def posixRecvAll (calls : Nat) (sock : Socket) (len : Nat) : PosixRoutine RecvAnswer := do
  let ended ← moveAll sock (recvRest len) len calls []
  return .ofLoop ended

/-- `ovnc__socket_send_all`. -/
def posixSendAll (calls : Nat) (sock : Socket) (data : List UInt8) : PosixRoutine SendAnswer := do
  let ended ← moveAll sock (sendRest data) data.length calls []
  return .ofLoop ended

/-- `ovnc__socket_connect`, with the variable for the socket on its own. -/
def posixConnect (host : String) (port : UInt16) (timeoutMs : UInt32) :
    PosixRoutine (Except Error Socket) := do
  let (result, sock) ← isolate (translate (fun call => ask (Call.system call))
    (socketConnect host port timeoutMs)) invalidSocket
  return result.map (fun _ => sock)

/-- `ovnc__socket_close`. -/
def posixClose (sock : Socket) : PosixRoutine Unit :=
  onlyIf (sock ≠ invalidSocket) (ask (Call.system (.close sock)))

/-- The socket of the client's transport. -/
def Client.sock (client : Client) : Socket := client.transport.elim invalidSocket Transport.sock

/-- The function that answers each request. -/
def posix (calls : Nat) : (request : Request) → PosixRoutine (Answer request)
  | .recv len => do
    let memory ← load
    posixRecvAll calls memory.client.sock len
  | .send data => do
    let memory ← load
    posixSendAll calls memory.client.sock data
  | .socketConnect host port timeoutMs => posixConnect host port timeoutMs
  | .socketClose sock => posixClose sock
  | request => ask (Call.outside request)

/-- A routine on POSIX sockets, each loop within a number of system calls. -/
def onPosix {α : Type} (calls : Nat) (routine : Routine α) : PosixRoutine α :=
  translate (posix calls) routine

/-- What is assumed of the system: no call moves more bytes than it is given, and a `send`
moves those at the front. What lies outside the library answers within `outside`. -/
def Behaves (outside : (request : Request) → Answer request → Prop) :
    (call : Call) → CallAnswer call → Prop
  | .move _ (.recv len), .moved bytes => bytes.length ≤ len
  | .move _ (.send data), .moved bytes => bytes <+: data
  | .outside request, answer => outside request answer
  | _, _ => True

/-- The errors of `ovnc__socket_connect`. Two of them need a timeout. -/
def Dialable (timeoutMs : UInt32) (error : Error) : Prop :=
  error = .connectionRefused ∨ 0 < timeoutMs ∧ (error = .timeout ∨ error = .io)

/-- What the transport layer and the outside can answer on POSIX. -/
def OnPosix (outside : (request : Request) → Answer request → Prop) :
    (request : Request) → Answer request → Prop
  | .recv len, answer => Allowed (.recv len) answer
  | .send data, answer => Allowed (.send data) answer
  | .socketConnect .., .ok sock => 0 ≤ sock
  | .socketConnect _ _ timeoutMs, .error error => Dialable timeoutMs error
  | .socketClose _, _ => True
  | request, answer => outside request answer

/-- The level of the sockets. Every loop of a call has the same bound. -/
def posixLevel (word : WordSize) (outside : (request : Request) → Answer request → Prop) :
    Level CallStep where
  performs call memory calls result final := ∃ bound limit, Execution (Behaves outside)
    (onPosix limit (perform word bound call)) memory calls (Outcome.finished result) final
  destroys memory calls final := ∃ limit, Execution (Behaves outside)
    (onPosix limit clientDestroy) memory calls (.returned ()) final

/-! ## What is seen on both levels -/

/-- A byte that passes over a connection, or a request that has nothing to do with sockets. -/
inductive Item where
  | arrived (byte : UInt8)
  | departed (byte : UInt8)
  | asked (request : Request) (answer : Answer request)

/-- What is seen of a request. -/
def requestItems (step : Step) : List Item :=
  match step with
  | ⟨_, .recv _, .complete bytes⟩ => bytes.map .arrived
  | ⟨_, .recv _, .stopped received _⟩ => received.map .arrived
  | ⟨_, .send data, .complete⟩ => data.map .departed
  | ⟨_, .send data, .stopped written _⟩ => (data.take written).map .departed
  | ⟨_, .socketConnect .., _⟩ => []
  | ⟨_, .socketClose _, _⟩ => []
  | ⟨_, request, answer⟩ => [.asked request answer]

/-- What is seen of a call. -/
def callItems (step : CallStep) : List Item :=
  match step with
  | ⟨_, .move _ (.recv _), .moved bytes⟩ => bytes.map .arrived
  | ⟨_, .move _ (.send _), .moved bytes⟩ => bytes.map .departed
  | ⟨_, .outside request, answer⟩ => [.asked request answer]
  | _ => []

end OpenVnc
